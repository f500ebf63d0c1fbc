import SmsGateway.Dispatch.Registry
import SmsGateway.Dispatch.World

/-!
The dispatch of one event, step by step. An event is checked, recorded, told to its listeners and
marked as published. An event that is recorded already is published again unless it was published
before; so a dispatch that was interrupted after it recorded its event can be repeated.

`Stage.advance` is one step. Between two steps a dispatch may be dropped, and other dispatches may
take steps of their own.
-/

namespace SmsGateway

/-- A fan-out that has begun. -/
structure FanOut (α : Type) where
  /-- The listeners that have not ended yet. -/
  waiting : List α
  /-- The listeners that had their turn and will never end. -/
  stuck : List α
  summary : PublishSummary
  deriving DecidableEq

/-- How far the dispatch of an event has come. -/
inductive Stage (α : Type) where
  /-- The event has been handed in. -/
  | received
  /-- The event keeps the rules. -/
  | checked
  /-- The log reported the event as recorded before. -/
  | taken (duplicate : Failure)
  /-- The event is recorded and not published. -/
  | recorded
  /-- The listeners are being told. -/
  | publishing (fanOut : FanOut α)
  /-- Every listener has ended. -/
  | published (summary : PublishSummary)
  | ended (result : Except Failure Unit)

namespace Stage

variable {α σ : Type}

/-- Ends a dispatch with a failure that is noted. -/
def fail (level : NoticeLevel) (message : String) (f : Failure) : Stage α × List Notice :=
  (.ended (.error f), [.ofError level message f.text])

def afterCheck : Except Failure Unit → Stage α × List Notice
  | .ok () => (.checked, [])
  | .error f => fail .warn "cannot dispatch invalid event" f

/-- After the log was asked to record the event. -/
def afterCreate : Except Failure Unit → Stage α × List Notice
  | .ok () => (.recorded, [])
  | .error f => if f.isDuplicate then (.taken f, []) else fail .error "cannot save event" f

/-- After the log was asked whether an event that it holds is published. -/
def afterLookup (duplicate : Failure) : Except Failure Bool → Stage α × List Notice
  | .ok true => (.ended (.error duplicate), [.of .debug "event already published" []])
  | .ok false =>
      (.recorded, [.of .warn "event recorded but never published, publishing again" []])
  | .error f => fail .error "cannot check event publication" f

def beginFanOut (e : Envelope) (listeners : List α) : Stage α × List Notice :=
  (.publishing ⟨listeners, [], ⟨listeners.length, 0⟩⟩,
    if listeners.isEmpty then
      [.of .info "no listener is configured for event type" [("event_type", e.type)]]
    else [])

/-- After the log was asked to mark the event as published. -/
def afterMark : Except Failure Unit → Stage α × List Notice
  | .ok () => (.ended (.ok ()), [])
  | .error f => fail .error "cannot mark event as published" f

/-- Notes what a step wrote into the journal. -/
def noted (s : Stage α × List Notice) (w : World σ) : Stage α × World σ :=
  (s.1, w.note s.2)

/-- Lets a waiting listener of a fan-out handle the event. -/
def tell (env : Surroundings α σ) (e : Envelope) (f : FanOut α) (listener : α) (rest : List α)
    (w : World σ) : Stage α × World σ :=
  let (outcome, outside) := env.handle listener e w.log w.outside
  let w := { w with outside := outside }
  match outcome with
  | some outcome =>
      (.publishing { f with waiting := rest, summary := outcome.countIn f.summary },
        w.note (outcome.notices e (env.name listener)))
  | none => (.publishing { f with waiting := rest, stuck := f.stuck ++ [listener] }, w)

/-- The next step of the dispatch of an event. -/
def advance (env : Surroundings α σ) (registry : Registry α) (e : Envelope) :
    Stage α → World σ → Stage α × World σ
  | .received, w => noted (afterCheck e.validate) w
  | .checked, w => let (answer, w) := w.create env e; noted (afterCreate answer) w
  | .taken f, w => let (answer, w) := w.isPublished env e.id; noted (afterLookup f answer) w
  | .recorded, w => noted (beginFanOut e (registry.listeners e.type)) w
  | .publishing f, w =>
      match f.waiting, f.stuck with
      | listener :: rest, _ => tell env e f listener rest w
      | [], [] => (.published f.summary, w)
      | [], _ => (.publishing f, w)
  | .published _, w => let (answer, w) := w.markPublished env e.id; noted (afterMark answer) w
  | .ended r, w => (.ended r, w)

/-- Some steps of the dispatch of an event. -/
def run (env : Surroundings α σ) (registry : Registry α) (e : Envelope) :
    Nat → Stage α → World σ → Stage α × World σ
  | 0, s, w => (s, w)
  | n + 1, s, w =>
      let (s, w) := advance env registry e s w
      run env registry e n s w

end Stage

end SmsGateway
