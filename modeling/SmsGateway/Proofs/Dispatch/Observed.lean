import SmsGateway.Proofs.Dispatch.Alone

namespace SmsGateway

variable {α σ : Type}

/-- A call that listeners or the push queue get. -/
inductive OutsideCall (α : Type) where
  /-- A listener was let handle an event. -/
  | told (listener : α) (e : Envelope)
  /-- A task was handed to the push queue. -/
  | queued (t : DeliveryTask)

/-- The same surroundings, with a record of the calls that they get. -/
def Surroundings.observed (env : Surroundings α σ) :
    Surroundings α (σ × List (OutsideCall α)) where
  refuse c o :=
    let (refusal, outside) := env.refuse c o.1
    (refusal, outside, o.2)
  name := env.name
  handle listener e log o :=
    let (outcome, outside) := env.handle listener e log o.1
    (outcome, outside, o.2 ++ [.told listener e])
  enqueue t delay o :=
    let (answer, outside) := env.enqueue t delay o.1
    (answer, outside, o.2 ++ [.queued t])

def World.observed (w : World σ) (calls : List (OutsideCall α)) :
    World (σ × List (OutsideCall α)) :=
  ⟨w.log, w.notices, w.outside, calls⟩

/-- The call that listeners or the push queue get when the outside is asked. -/
def TraceEntry.call? : TraceEntry α → Option (OutsideCall α)
  | .log _ _ => none
  | .turn t => some (.told t.listener t.event)
  | .queue task _ _ => some (.queued task)

/-- The call that a deed consists in. -/
def Deed.call? (d : Deed α) : Option (OutsideCall α) :=
  d.asked?.bind TraceEntry.call?

theorem Surroundings.observed_records (env : Surroundings α σ) :
    env.observed.Records env TraceEntry.call? where
  name := rfl
  refuse c o record := by
    change ((env.refuse c o).1, (env.refuse c o).2, record) = _
    rw [TraceEntry.call?, Option.toList_none, List.append_nil]
  handle listener e log o record := rfl

theorem filterMap_call?_entries (ds : List (Deed α)) :
    (ds.filterMap Deed.asked?).filterMap TraceEntry.call? = ds.filterMap Deed.call? :=
  List.filterMap_filterMap

theorem filterMap_call?_eq_turns (ds : List (Deed α)) :
    ds.filterMap Deed.call? =
      (turnsIn (ds.filterMap Deed.asked?)).map fun t => .told t.listener t.event := by
  induction ds with
  | nil => rfl
  | cons d ds ih =>
      cases d with
      | told listener e outcome => exact congrArg (_ :: ·) ih
      | _ => exact ih

namespace Dispatcher

variable {d : Dispatcher α} {env : Surroundings α σ} {e : Envelope}

/-- The calls that listeners get in the course of a dispatch at once, as an observer sees it. -/
def calls (d : Dispatcher α) (env : Surroundings α σ) (e : Envelope) (w : World σ) :
    List (OutsideCall α) :=
  (d.dispatchSync env.observed e (w.observed [])).2.outside.2

theorem dispatchSync_observed (w : World σ) (calls : List (OutsideCall α)) :
    d.dispatchSync env.observed e (w.observed calls) =
      ((d.dispatchSync env e w).1, (d.dispatchSync env e w).2.observed
        (calls ++ d.calls env e w)) := by
  have hall (calls : List (OutsideCall α)) :=
    dispatchSync_records (d := d) (e := e) env.observed_records w calls
  have hcalls : d.calls env e w = (d.trace env e w).filterMap TraceEntry.call? :=
    congrArg (fun x => x.2.outside.2) (hall [])
  rw [hcalls]
  exact hall calls

theorem calls_eq_deeds (w : World σ) : d.calls env e w = (d.deeds env e w).filterMap Deed.call? := by
  rw [← filterMap_call?_entries, ← trace_eq_deeds]
  exact congrArg (fun x => x.2.outside.2) (dispatchSync_records env.observed_records w [])

theorem calls_eq_turns (w : World σ) :
    d.calls env e w = (turnsIn (d.trace env e w)).map fun t => .told t.listener t.event := by
  rw [calls_eq_deeds, filterMap_call?_eq_turns, trace_eq_deeds]

/-- What the push queue gets of an event: its task, if the event keeps the rules. -/
def handOver (d : Dispatcher α) (e : Envelope) : List (OutsideCall α) :=
  match e.validate with
  | .ok () => [.queued (.forEvent e d.endpoint d.key)]
  | .error _ => []

theorem dispatchAfter_observed (delay : Time.Span) (w : World σ) (calls : List (OutsideCall α)) :
    d.dispatchAfter env.observed e delay (w.observed calls) =
      ((d.dispatchAfter env e delay w).1,
        (d.dispatchAfter env e delay w).2.observed (calls ++ d.handOver e)) := by
  rw [dispatchAfter, dispatchAfter, handOver]
  cases e.validate with
  | error f => rw [List.append_nil]; rfl
  | ok u => rfl

end Dispatcher

end SmsGateway
