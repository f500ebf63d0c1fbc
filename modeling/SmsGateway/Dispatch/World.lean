import SmsGateway.Delivery.Task
import SmsGateway.Dispatch.Outcome
import SmsGateway.EventLog.Basic
import SmsGateway.Time.Span

/-!
What a dispatcher works on: the event log, the journal of notices, and whatever is outside of the
gateway. The outside decides which log calls are refused, how listeners handle events and how the
push queue answers, and it may change with each of these. A refused log call has no effect.
-/

namespace SmsGateway

/-- The calls of an event log. -/
inductive LogCall where
  | create
  | load
  | markPublished
  | isPublished
  deriving DecidableEq, Repr

/-- How the outside, in a state of type `σ`, answers the gateway. -/
structure Surroundings (α σ : Type) where
  refuse : LogCall → σ → Option Failure × σ
  name : α → String
  /-- How a listener ends with an event; `none` if it never ends. -/
  handle : α → Envelope → EventLog → σ → Option Outcome × σ
  /-- The push queue's answer to a task that is due after a delay. -/
  enqueue : DeliveryTask → Time.Span → σ → Except Failure String × σ

/-- The state that a dispatcher works on. -/
structure World (σ : Type) where
  log : EventLog
  notices : List Notice
  outside : σ

namespace World

variable {α σ β : Type}

/-- Adds to the journal. -/
def note (w : World σ) (notices : List Notice) : World σ :=
  { w with notices := w.notices ++ notices }

/-- A log call: what the log answers, unless the call is refused. -/
def call (env : Surroundings α σ) (c : LogCall) (w : World σ)
    (answer : World σ → Except Failure β × World σ) : Except Failure β × World σ :=
  let (refusal, outside) := env.refuse c w.outside
  match refusal with
  | some f => (.error f, { w with outside := outside })
  | none => answer { w with outside := outside }

/-- Records an event in the log. -/
def create (env : Surroundings α σ) (e : Envelope) (w : World σ) : Except Failure Unit × World σ :=
  w.call env .create fun w =>
    match w.log.create e with
    | .ok log => (.ok (), { w with log := log }.note [EventLog.recorded])
    | .error f => (.error f, w)

/-- Loads an event from the log. -/
def load (env : Surroundings α σ) (id : String) (w : World σ) :
    Except Failure (Option Envelope) × World σ :=
  w.call env .load fun w => (w.log.load id, w)

/-- Marks an event of the log as published. -/
def markPublished (env : Surroundings α σ) (id : String) (w : World σ) :
    Except Failure Unit × World σ :=
  w.call env .markPublished fun w =>
    match w.log.markPublished id with
    | .ok log => (.ok (), { w with log := log })
    | .error f => (.error f, w)

/-- Whether an event of the log is published. -/
def isPublished (env : Surroundings α σ) (id : String) (w : World σ) :
    Except Failure Bool × World σ :=
  w.call env .isPublished fun w => (.ok (w.log.isPublished id), w)

end World

end SmsGateway
