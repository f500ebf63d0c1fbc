import SmsGateway.EventLog.Directory

namespace SmsGateway

/-- A call of an event log. -/
inductive LogRequest where
  | create (e : Envelope)
  | load (id : String)
  | markPublished (id : String)
  | isPublished (id : String)
  | count

/-- What comes of a call, or of opening a file. -/
inductive LogReply where
  | opened (result : Except Failure Unit)
  | created (result : Except Failure Unit)
  | loaded (result : Except Failure (Option Envelope))
  | marked (result : Except Failure Unit)
  | published (result : Bool)
  | counted (result : Nat)

/-- What may be done with handles. -/
inductive LogAccess where
  | openFile (path : String)
  | clone (handle : Nat)
  | close (handle : Nat)
  | call (handle : Nat) (request : LogRequest)

def EventLog.answer (log : EventLog) : LogRequest → LogReply × EventLog
  | .create e =>
      match log.create e with
      | .ok log' => (.created (.ok ()), log')
      | .error f => (.created (.error f), log)
  | .load id => (.loaded (log.load id), log)
  | .markPublished id =>
      match log.markPublished id with
      | .ok log' => (.marked (.ok ()), log')
      | .error f => (.marked (.error f), log)
  | .isPublished id => (.published (log.isPublished id), log)
  | .count => (.counted log.count, log)

/-- A directory, and the handles of event logs in it. -/
structure SharedLog where
  directory : Directory
  handles : List LogHandle

namespace SharedLog

/-- A call through a handle. A log in memory is not in the directory, so it is not called here. -/
def call (s : SharedLog) (request : LogRequest) : LogHandle → Option LogReply × SharedLog
  | .stored path =>
      let (reply, log) := (s.directory.log path).answer request
      (some reply, { s with directory := s.directory.put path (.log log) })
  | .inMemory => (none, s)

/-- What comes of an access; of one through a handle that is not there, nothing. -/
def access (s : SharedLog) : LogAccess → Option LogReply × SharedLog
  | .openFile path =>
      match s.directory.openLog path with
      | (.ok h, d) => (some (.opened (.ok ())), ⟨d, s.handles ++ [h]⟩)
      | (.error f, d) => (some (.opened (.error f)), ⟨d, s.handles⟩)
  | .clone i => (none, { s with handles := s.handles ++ (s.handles[i]?).toList })
  | .close i => (none, { s with handles := s.handles.eraseIdx i })
  | .call i request =>
      match s.handles[i]? with
      | some h => s.call request h
      | none => (none, s)

def run (s : SharedLog) : List LogAccess → List (Option LogReply) × SharedLog
  | [] => ([], s)
  | a :: rest =>
      let (reply, s) := s.access a
      let (replies, s) := s.run rest
      (reply :: replies, s)

end SharedLog

end SmsGateway
