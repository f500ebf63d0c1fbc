import SmsGateway.Dispatch.Stage

namespace SmsGateway

/-- What an event is dispatched with. -/
structure Dispatcher (α : Type) where
  /-- Where the push queue delivers events. -/
  endpoint : String
  /-- The key that deliveries are signed with. -/
  key : String
  registry : Registry α

namespace Dispatcher

variable {α σ : Type}

def subscribe (d : Dispatcher α) (type : String) (listener : α) : Dispatcher α :=
  { d with registry := d.registry.subscribe type listener }

/-- The steps from a recorded event to one that every listener has ended with. -/
def stepsToPublish (d : Dispatcher α) (e : Envelope) : Nat :=
  d.registry.count e.type + 2

/-- Tells the listeners of an event's type of it, and waits for them. The answer is `none` if some
listener never ends. -/
def publish (d : Dispatcher α) (env : Surroundings α σ) (e : Envelope) (w : World σ) :
    Option PublishSummary × World σ :=
  match Stage.run env d.registry e (d.stepsToPublish e) .recorded w with
  | (.published summary, w) => (some summary, w)
  | (_, w) => (none, w)

/-- Dispatches an event at once. The answer is `none` if some listener never ends; the dispatch is
dropped then. -/
def dispatchSync (d : Dispatcher α) (env : Surroundings α σ) (e : Envelope) (w : World σ) :
    Option (Except Failure Unit) × World σ :=
  match Stage.run env d.registry e (d.stepsToPublish e + 4) .received w with
  | (.ended result, w) => (some result, w)
  | (_, w) => (none, w)

/-- The shortest delay. -/
def immediate : Time.Span := ⟨1⟩

/-- What is answered when the push queue has answered. -/
def afterEnqueue : Except Failure String → Except Failure String × List Notice
  | .ok id =>
      if Text.isBlankText id then failed (.rejected "push queue returned an empty task id")
      else (.ok id, [.of .debug "event enqueued" [("queue_id", id)]])
  | .error f => failed f
where
  /-- A task that was not enqueued. -/
  failed (f : Failure) : Except Failure String × List Notice :=
    (.error f, [.ofError .error "cannot enqueue event" f.text])

/-- Hands an event to the push queue, to be delivered after a delay. -/
def dispatchAfter (d : Dispatcher α) (env : Surroundings α σ) (e : Envelope) (delay : Time.Span)
    (w : World σ) : Except Failure String × World σ :=
  match e.validate with
  | .error f => (.error f, w.note [.ofError .warn "cannot dispatch invalid event" f.text])
  | .ok () =>
      let (answer, outside) := env.enqueue (.forEvent e d.endpoint d.key) delay w.outside
      let (result, notices) := afterEnqueue answer
      (result, { w with outside := outside }.note notices)

/-- Hands an event to the push queue, to be delivered as soon as possible. -/
def dispatch (d : Dispatcher α) (env : Surroundings α σ) (e : Envelope) (w : World σ) :
    Except Failure String × World σ :=
  d.dispatchAfter env e immediate w

def diagnostic (name : α → String) (d : Dispatcher α) : String :=
  "EventDispatcher \x7b consumer_endpoint: " ++ Text.quoted d.endpoint ++ ", listeners: " ++
    d.registry.diagnostic name ++ " \x7d"

end Dispatcher

end SmsGateway
