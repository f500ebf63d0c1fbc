import SmsGateway.Delivery.Queue

/-!
Push queues that many use at once. Tasks are handed in while accepted ones are being delivered and
while others close the queue. A move is one step of any of them, so every order of the steps of all
is a list of moves.

Handing in a task is one step: the queue cannot start to refuse tasks between the check and the
moment from which the task is waited for. Closing the queue is two steps: it refuses tasks, and from
then on its emptiness is the end of everything that waits for it.
-/

namespace SmsGateway

/-- A delivery under way. -/
structure DeliveryJob where
  queued : QueuedTask
  /-- How often it may be attempted again. -/
  repetitions : Nat
  /-- The delay before the next repetition. -/
  delay : Time.Span

namespace DeliveryJob

/-- The delivery of a task that has just been accepted. -/
def start (p : RetryPolicy) (t : QueuedTask) : DeliveryJob :=
  ⟨t, p.maxRetries.toNat, p.firstDelay⟩

/-- How a delivery ends with a reply or goes on after it, and what is noted of the reply. -/
def afterReply (p : RetryPolicy) (job : DeliveryJob) (reply : Reply) :
    (DeliveryEnd ⊕ DeliveryJob) × Notice :=
  match reply.verdict, job.repetitions with
  | .success, _ => (.inl .delivered, Delivery.delivered)
  | .permanent message, _ =>
      (.inl .dropped, Delivery.dropped s!"permanent delivery error: {message}")
  | .transient message, 0 => (.inl .dropped, Delivery.dropped (Delivery.transientText message))
  | .transient message, repetitions + 1 =>
      (.inr { job with repetitions := repetitions, delay := p.nextDelay job.delay },
        Delivery.retrying message job.delay)

end DeliveryJob

/-- The ways to close a queue. -/
inductive QueueCommand where
  | close
  /-- Also waits for the accepted tasks. -/
  | shutdown
  /-- Also cancels the accepted tasks, and waits until they are gone. -/
  | abort
  deriving DecidableEq, Repr

/-- How far the call of a command has come. -/
inductive CallStage where
  | asked
  /-- The queue refuses tasks. -/
  | refusing
  | closed
  /-- The call waits until no task is left. -/
  | waiting
  | returned
  deriving DecidableEq, Repr

/-- The call of a command. -/
structure QueueCall where
  command : QueueCommand
  stage : CallStage
  deriving DecidableEq, Repr

/-- A push queue with all that is under way in it. -/
structure SharedQueue where
  queue : PushQueue
  /-- The deliveries of the waiting tasks, in the order of the queue. -/
  jobs : List DeliveryJob
  /-- Whether those who wait for the queue are told as soon as it is empty. -/
  closed : Bool
  cancelling : Bool
  calls : List QueueCall
  /-- What those who handed in a task were answered. -/
  answers : List (Except Failure String)
  notices : List Notice

/-- What may happen next to a queue. -/
inductive QueueMove where
  | enqueue (id : String) (task : DeliveryTask) (delay : Time.Span)
  | attempt (job : Nat) (reply : Reply)
  /-- A delivery notices that it is cancelled. -/
  | giveUp (job : Nat)
  | call (command : QueueCommand)
  /-- The call of a command takes its next step. -/
  | advance (call : Nat)

/-- Ends one of the waiting tasks. -/
def PushQueue.finish (q : PushQueue) (i : Nat) (ending : DeliveryEnd) : PushQueue :=
  match q.waiting[i]? with
  | some t => { q with waiting := q.waiting.eraseIdx i, finished := q.finished ++ [(t, ending)] }
  | none => q

namespace SharedQueue

/-- A queue that nobody has used yet. -/
def create (policy : RetryPolicy) : SharedQueue :=
  ⟨.create policy, [], false, false, [], [], []⟩

def enqueue (s : SharedQueue) (id : String) (task : DeliveryTask) (delay : Time.Span) :
    SharedQueue :=
  let (answer, queue, notices) := s.queue.enqueue id task delay
  let started : List DeliveryJob :=
    match answer with
    | .ok id => [.start s.queue.policy ⟨id, task, delay⟩]
    | .error _ => []
  { s with
    queue := queue
    jobs := s.jobs ++ started
    answers := s.answers ++ [answer]
    notices := s.notices ++ notices }

def endJob (s : SharedQueue) (i : Nat) (ending : DeliveryEnd) (notice : Notice) : SharedQueue :=
  { s with
    queue := s.queue.finish i ending
    jobs := s.jobs.eraseIdx i
    notices := s.notices ++ [notice] }

def attempt (s : SharedQueue) (i : Nat) (reply : Reply) : SharedQueue :=
  match s.jobs[i]? with
  | some job =>
      match job.afterReply s.queue.policy reply with
      | (.inl ending, notice) => s.endJob i ending notice
      | (.inr job, notice) =>
          { s with jobs := s.jobs.set i job, notices := s.notices ++ [notice] }
  | none => s

/-- Cancels a delivery, if deliveries are to be cancelled. -/
def giveUp (s : SharedQueue) (i : Nat) : SharedQueue :=
  match s.cancelling, s.jobs[i]? with
  | true, some _ => s.endJob i .cancelled Delivery.cancelled
  | _, _ => s

/-- Puts a call where it has come to. -/
def withCall (s : SharedQueue) (i : Nat) (command : QueueCommand) (stage : CallStage) :
    SharedQueue :=
  { s with calls := s.calls.set i ⟨command, stage⟩ }

/-- Lets the call of a command take its next step. -/
def advance (s : SharedQueue) (i : Nat) : SharedQueue :=
  match s.calls[i]? with
  | some ⟨command, .asked⟩ => { s with queue := s.queue.close }.withCall i command .refusing
  | some ⟨command, .refusing⟩ => { s with closed := true }.withCall i command .closed
  | some ⟨.close, .closed⟩ => s.withCall i .close .returned
  | some ⟨.shutdown, .closed⟩ =>
      { s with notices := s.notices ++ [s.queue.awaited] }.withCall i .shutdown .waiting
  | some ⟨.abort, .closed⟩ => { s with cancelling := true }.withCall i .abort .waiting
  | some ⟨command, .waiting⟩ =>
      if s.closed ∧ s.queue.pending = 0 then s.withCall i command .returned else s
  | some ⟨_, .returned⟩ | none => s

def move (s : SharedQueue) : QueueMove → SharedQueue
  | .enqueue id task delay => s.enqueue id task delay
  | .attempt i reply => s.attempt i reply
  | .giveUp i => s.giveUp i
  | .call command => { s with calls := s.calls ++ [⟨command, .asked⟩] }
  | .advance i => s.advance i

def run (s : SharedQueue) (moves : List QueueMove) : SharedQueue :=
  moves.foldl move s

end SharedQueue

end SmsGateway
