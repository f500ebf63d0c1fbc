import SmsGateway.Event.Envelope
import SmsGateway.Notice

namespace SmsGateway

/-- How a listener ended with an event. -/
inductive Outcome where
  | handled
  | failed (reason : String)
  | panicked
  /-- The listener was gone before it could say its name. -/
  | lost
  deriving DecidableEq, Repr

/-- The numbers of listeners that were told of an event and that failed to handle it. -/
structure PublishSummary where
  invoked : Nat
  failed : Nat
  deriving DecidableEq, Repr

namespace Outcome

/-- The texts by which a notice tells which event it is about. -/
def eventFields (e : Envelope) : List (String × String) :=
  [("event_id", e.id), ("event_type", e.type)]

/-- The texts of a listener's failure. -/
def failureFields (e : Envelope) (name : String) (f : Failure) : List (String × String) :=
  [("listener", name), ("code", f.code.text), ("error", f.text)] ++ eventFields e

/-- What is noted of the end of a listener. -/
def notices (e : Envelope) (name : String) : Outcome → List Notice
  | .handled => []
  | .failed reason =>
      [.of .error "listener cannot handle event"
        (failureFields e name (.listener name e.type reason))]
  | .panicked =>
      [.of .error "listener panicked while handling event"
        (failureFields e name (.listenerPanicked name e.type))]
  | .lost => [.of .error "listener task did not complete" (eventFields e)]

/-- Counts the end of a listener. -/
def countIn (s : PublishSummary) : Outcome → PublishSummary
  | .handled => s
  | _ => { s with failed := s.failed + 1 }

end Outcome

end SmsGateway
