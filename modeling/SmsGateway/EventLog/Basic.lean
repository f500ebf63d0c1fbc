import SmsGateway.Event.Wire
import SmsGateway.Notice

/-!
The event log: one row for each recorded event, under the event's id. A row keeps the wire form of
the envelope beside some of its attributes, and whether the event was published, which it is once
every listener has been told of it. Rows are added and marked, and never removed.
-/

namespace SmsGateway

/-- A recorded event. -/
structure LogRow where
  id : String
  type : String
  source : String
  subject : Option String
  time : Option String
  envelope : String
  published : Bool
  deriving DecidableEq, Repr

/-- The row of an event that is not published yet. -/
def LogRow.ofEnvelope (e : Envelope) : LogRow where
  id := e.id
  type := e.type
  source := e.source
  subject := e.subject
  time := e.time.map Time.Instant.offsetText
  envelope := e.wire
  published := false

/-- Recorded events, the oldest first. -/
structure EventLog where
  rows : List LogRow
  deriving DecidableEq, Repr

namespace EventLog

def empty : EventLog := ⟨[]⟩

def find? (log : EventLog) (id : String) : Option LogRow :=
  log.rows.find? fun r => r.id == id

/-- Records an event. An id is recorded once. -/
def create (log : EventLog) (e : Envelope) : Except Failure EventLog :=
  match log.find? e.id with
  | some _ => .error (.duplicateEvent e.id)
  | none => .ok ⟨log.rows ++ [.ofEnvelope e]⟩

def load (log : EventLog) (id : String) : Except Failure (Option Envelope) :=
  match log.find? id with
  | none => .ok none
  | some r => (Envelope.ofWire r.envelope).map some

def markPublished (log : EventLog) (id : String) : Except Failure EventLog :=
  match log.find? id with
  | none => .error (.eventNotFound id)
  | some _ => .ok ⟨log.rows.map fun r => if r.id = id then { r with published := true } else r⟩

def isPublished (log : EventLog) (id : String) : Bool :=
  (log.find? id).any (·.published)

/-- The number of recorded events. -/
def count (log : EventLog) : Nat :=
  log.rows.length

/-- Puts another text in the place of a recorded envelope, as a foreign hand may do. -/
def overwrite (log : EventLog) (id text : String) : EventLog :=
  ⟨log.rows.map fun r => if r.id = id then { r with envelope := text } else r⟩

def recorded : Notice :=
  .of .debug "event recorded" []

/-- How a log without its table of rows answers every call. -/
def tableMissing : Failure :=
  .database 1

end EventLog

end SmsGateway
