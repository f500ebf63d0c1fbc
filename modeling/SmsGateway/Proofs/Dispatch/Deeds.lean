import SmsGateway.Dispatch.Stage
import SmsGateway.Proofs.EventLog.Rows

namespace SmsGateway

/-- What a step of a dispatch does to the log or to a listener. -/
inductive Deed (α : Type) where
  /-- A log call was refused, without effect. -/
  | refused (call : LogCall) (f : Failure)
  /-- The log recorded an event. -/
  | recorded (e : Envelope)
  /-- The log was asked to record an event whose id it holds already. -/
  | met (id : String)
  /-- The log told whether an id is published. -/
  | answered (id : String) (published : Bool)
  /-- The fan-out of an event began: its listeners are started. -/
  | begun (e : Envelope)
  /-- A listener handled an event and ended so, or never ends. -/
  | told (listener : α) (e : Envelope) (outcome : Option Outcome)
  /-- The log marked an id as published. -/
  | marked (id : String)
  /-- The log was asked to mark an id that it does not hold. -/
  | missed (id : String)

namespace Deed

variable {α : Type}

/-- The event that a deed starts listeners for or lets one handle. -/
def started? : Deed α → Option Envelope
  | begun e => some e
  | told _ e _ => some e
  | _ => none

/-- Whether a deed changes the log. -/
def IsWrite : Deed α → Prop
  | recorded _ | marked _ => True
  | _ => False

end Deed

/-- Whether the outside can refuse a log call with a failure. -/
def Surroundings.Refuses {α σ : Type} (env : Surroundings α σ) (c : LogCall) (f : Failure) : Prop :=
  ∃ o, (env.refuse c o).1 = some f

namespace World

variable {α σ β : Type} {env : Surroundings α σ} {c : LogCall} {w : World σ} {o : σ}
  {answer : World σ → Except Failure β × World σ}

theorem call_of_refused {f : Failure} (h : env.refuse c w.outside = (some f, o)) :
    w.call env c answer = (.error f, { w with outside := o }) := by
  simp only [call, h]

theorem call_of_admitted (h : env.refuse c w.outside = (none, o)) :
    w.call env c answer = answer { w with outside := o } := by
  simp only [call, h]

end World

namespace Stage

variable {α σ : Type}

/-- What a log call does if it is not refused. -/
def logDeed (env : Surroundings α σ) (c : LogCall) (w : World σ) (answered : Deed α) : Deed α :=
  match (env.refuse c w.outside).1 with
  | some f => .refused c f
  | none => answered

/-- What the next step of the dispatch of an event does. -/
def deed? (env : Surroundings α σ) (e : Envelope) : Stage α → World σ → Option (Deed α)
  | .received, _ => none
  | .checked, w =>
      some (logDeed env .create w
        (if (w.log.find? e.id).isSome then .met e.id else .recorded e))
  | .taken _, w =>
      some (logDeed env .isPublished w (.answered e.id (w.log.isPublished e.id)))
  | .recorded, _ => some (.begun e)
  | .publishing f, w =>
      f.waiting.head?.map fun listener =>
        .told listener e (env.handle listener e w.log w.outside).1
  | .published _, w =>
      some (logDeed env .markPublished w
        (if (w.log.find? e.id).isSome then .marked e.id else .missed e.id))
  | .ended _, _ => none

/-- Every step of the dispatch of an event: the stage and the log before it, what it does, and the
stage and the log after it. -/
inductive Step (env : Surroundings α σ) (registry : Registry α) (e : Envelope) :
    Stage α → EventLog → Option (Deed α) → Stage α → EventLog → Prop where
  | reject {log : EventLog} {f : Failure} (hrules : e.validate = .error f) :
      Step env registry e .received log none (.ended (.error f)) log
  | accept {log : EventLog} (hrules : e.validate = .ok ()) :
      Step env registry e .received log none .checked log
  | refuseCreate {log : EventLog} {f : Failure} (hrefuse : env.Refuses .create f) :
      Step env registry e .checked log (some (.refused .create f))
        (if f.isDuplicate then .taken f else .ended (.error f)) log
  | create {log log' : EventLog} (hcreate : log.create e = .ok log') :
      Step env registry e .checked log (some (.recorded e)) .recorded log'
  | meet {log : EventLog} (hfound : (log.find? e.id).isSome) :
      Step env registry e .checked log (some (.met e.id)) (.taken (.duplicateEvent e.id)) log
  | refuseLookup {log : EventLog} {duplicate f : Failure} (hrefuse : env.Refuses .isPublished f) :
      Step env registry e (.taken duplicate) log (some (.refused .isPublished f))
        (.ended (.error f)) log
  | lookupPublished {log : EventLog} {duplicate : Failure}
      (hpublished : log.isPublished e.id = true) :
      Step env registry e (.taken duplicate) log (some (.answered e.id true))
        (.ended (.error duplicate)) log
  | lookupUnpublished {log : EventLog} {duplicate : Failure}
      (hunpublished : log.isPublished e.id = false) :
      Step env registry e (.taken duplicate) log (some (.answered e.id false)) .recorded log
  | begin {log : EventLog} {summary : PublishSummary} :
      Step env registry e .recorded log (some (.begun e))
        (.publishing ⟨registry.listeners e.type, [], summary⟩) log
  | tell {log : EventLog} {f : FanOut α} {listener : α} {rest : List α} {outcome : Outcome}
      (hwaiting : f.waiting.Perm (listener :: rest)) :
      Step env registry e (.publishing f) log (some (.told listener e (some outcome)))
        (.publishing { f with waiting := rest, summary := outcome.countIn f.summary }) log
  | hang {log : EventLog} {f : FanOut α} {listener : α} {rest : List α}
      (hwaiting : f.waiting.Perm (listener :: rest)) :
      Step env registry e (.publishing f) log (some (.told listener e none))
        (.publishing { f with waiting := rest, stuck := f.stuck ++ [listener] }) log
  | finish {log : EventLog} {f : FanOut α} (hwaiting : f.waiting = []) (hstuck : f.stuck = []) :
      Step env registry e (.publishing f) log none (.published f.summary) log
  | refuseMark {log : EventLog} {summary : PublishSummary} {f : Failure}
      (hrefuse : env.Refuses .markPublished f) :
      Step env registry e (.published summary) log (some (.refused .markPublished f))
        (.ended (.error f)) log
  | mark {log log' : EventLog} {summary : PublishSummary}
      (hmark : log.markPublished e.id = .ok log') :
      Step env registry e (.published summary) log (some (.marked e.id)) (.ended (.ok ())) log'
  | miss {log : EventLog} {summary : PublishSummary} (hmissing : log.find? e.id = none) :
      Step env registry e (.published summary) log (some (.missed e.id))
        (.ended (.error (.eventNotFound e.id))) log
  | stall {log : EventLog} {f : FanOut α} (hwaiting : f.waiting = []) (hstuck : f.stuck ≠ []) :
      Step env registry e (.publishing f) log none (.publishing f) log
  | rest {log : EventLog} {r : Except Failure Unit} :
      Step env registry e (.ended r) log none (.ended r) log

variable {env : Surroundings α σ} {registry : Registry α} {e : Envelope}

theorem step_tell {f : FanOut α} {listener : α} {rest : List α} (w : World σ)
    (hwaiting : f.waiting.Perm (listener :: rest)) :
    Step env registry e (.publishing f) w.log
      (some (.told listener e (env.handle listener e w.log w.outside).1))
      (tell env e f listener rest w).1 (tell env e f listener rest w).2.log := by
  rw [tell]
  rcases env.handle listener e w.log w.outside with ⟨outcome | outcome, o⟩
  · exact .hang hwaiting
  · exact .tell hwaiting

private theorem step_create (w : World σ) :
    Step env registry e .checked w.log (deed? env e .checked w)
      (advance env registry e .checked w).1 (advance env registry e .checked w).2.log := by
  rcases hrefuse : env.refuse .create w.outside with ⟨refusal | f, o⟩
  · simp only [deed?, logDeed, advance, World.create, World.call_of_admitted hrefuse, hrefuse]
    cases hcreate : w.log.create e with
    | ok log =>
        rw [(EventLog.create_eq_ok_iff.mp hcreate).1]
        exact .create hcreate
    | error f =>
        obtain ⟨hfound, rfl⟩ := EventLog.create_eq_error_iff.mp hcreate
        rw [if_pos hfound]
        exact .meet hfound
  · simp only [deed?, logDeed, advance, World.create, World.call_of_refused hrefuse, hrefuse]
    have hstep : Step env registry e .checked w.log (some (.refused .create f))
        (if f.isDuplicate then .taken f else .ended (.error f)) w.log :=
      .refuseCreate ⟨w.outside, by rw [hrefuse]⟩
    cases hduplicate : f.isDuplicate <;>
      simpa [noted, afterCreate, fail, hduplicate, World.note] using hstep

private theorem step_lookup (duplicate : Failure) (w : World σ) :
    Step env registry e (.taken duplicate) w.log (deed? env e (.taken duplicate) w)
      (advance env registry e (.taken duplicate) w).1
      (advance env registry e (.taken duplicate) w).2.log := by
  rcases hrefuse : env.refuse .isPublished w.outside with ⟨refusal | f, o⟩
  · simp only [deed?, logDeed, advance, World.isPublished, World.call_of_admitted hrefuse, hrefuse]
    cases hpublished : w.log.isPublished e.id with
    | true => exact .lookupPublished hpublished
    | false => exact .lookupUnpublished hpublished
  · simp only [deed?, logDeed, advance, World.isPublished, World.call_of_refused hrefuse, hrefuse]
    exact .refuseLookup ⟨w.outside, by rw [hrefuse]⟩

private theorem step_mark (summary : PublishSummary) (w : World σ) :
    Step env registry e (.published summary) w.log (deed? env e (.published summary) w)
      (advance env registry e (.published summary) w).1
      (advance env registry e (.published summary) w).2.log := by
  rcases hrefuse : env.refuse .markPublished w.outside with ⟨refusal | f, o⟩
  · simp only [deed?, logDeed, advance, World.markPublished, World.call_of_admitted hrefuse,
      hrefuse]
    cases hmark : w.log.markPublished e.id with
    | ok log =>
        rw [if_pos (EventLog.markPublished_eq_ok_iff.mp hmark).1]
        exact .mark hmark
    | error f =>
        obtain ⟨hmissing, rfl⟩ := EventLog.markPublished_eq_error_iff.mp hmark
        rw [hmissing]
        exact .miss hmissing
  · simp only [deed?, logDeed, advance, World.markPublished, World.call_of_refused hrefuse, hrefuse]
    exact .refuseMark ⟨w.outside, by rw [hrefuse]⟩

/-- What a dispatch does next is one of the steps, and its deed says which. -/
theorem step_advance (s : Stage α) (w : World σ) :
    Step env registry e s w.log (s.deed? env e w) (s.advance env registry e w).1
      (s.advance env registry e w).2.log := by
  cases s with
  | received =>
      cases hrules : e.validate with
      | ok _ =>
          simpa [deed?, advance, afterCheck, noted, hrules, World.note] using .accept hrules
      | error f =>
          simpa [deed?, advance, afterCheck, noted, fail, hrules, World.note] using .reject hrules
  | checked => exact step_create w
  | taken duplicate => exact step_lookup duplicate w
  | recorded => exact .begin
  | publishing f =>
      obtain ⟨waiting, stuck, summary⟩ := f
      cases waiting with
      | cons listener rest => exact step_tell w (List.Perm.refl _)
      | nil =>
          cases stuck with
          | nil => exact .finish rfl rfl
          | cons other others => exact .stall rfl (List.cons_ne_nil _ _)
  | published summary => exact step_mark summary w
  | ended r => exact .rest

theorem Step.growsInto {s s' : Stage α} {log log' : EventLog} {d : Option (Deed α)}
    (h : Step env registry e s log d s' log') : log.GrowsInto log' := by
  cases h with
  | create hcreate => exact EventLog.growsInto_create hcreate
  | mark hmark => exact EventLog.growsInto_markPublished hmark
  | _ => exact EventLog.growsInto_refl log

theorem Step.find?_of_recorded {s s' : Stage α} {log log' : EventLog} {e' : Envelope}
    (h : Step env registry e s log (some (.recorded e')) s' log') :
    log.find? e'.id = none ∧ log'.find? e'.id = some (.ofEnvelope e') := by
  cases h with
  | create hcreate =>
      refine ⟨(EventLog.create_eq_ok_iff.mp hcreate).1, ?_⟩
      rw [EventLog.find?_create hcreate, if_pos rfl]

theorem Step.log_eq {s s' : Stage α} {log log' : EventLog} {d : Option (Deed α)}
    (h : Step env registry e s log d s' log') (hread : ∀ x ∈ d, ¬ x.IsWrite) : log' = log := by
  cases h with
  | create hcreate => exact absurd trivial (hread _ rfl)
  | mark hmark => exact absurd trivial (hread _ rfl)
  | _ => rfl

end Stage

end SmsGateway
