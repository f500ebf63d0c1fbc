import SmsGateway.Proofs.Dispatch.Alone

namespace SmsGateway

variable {α σ : Type}

/-- What a deed tells of the log before it and after it. -/
inductive Deed.Tells : EventLog → Deed α → EventLog → Prop where
  | refused {log : EventLog} {c : LogCall} {f : Failure} : Tells log (.refused c f) log
  | recorded {log log' : EventLog} {e : Envelope} (hcreate : log.create e = .ok log') :
      Tells log (.recorded e) log'
  | met {log : EventLog} {id : String} (hfound : (log.find? id).isSome) : Tells log (.met id) log
  | answered {log : EventLog} {id : String} {published : Bool}
      (hpublished : log.isPublished id = published) : Tells log (.answered id published) log
  | begun {log : EventLog} {e : Envelope} : Tells log (.begun e) log
  | told {log : EventLog} {listener : α} {e : Envelope} {outcome : Option Outcome} :
      Tells log (.told listener e outcome) log
  | marked {log log' : EventLog} {id : String} (hmark : log.markPublished id = .ok log') :
      Tells log (.marked id) log'
  | missed {log : EventLog} {id : String} (hmissing : log.find? id = none) :
      Tells log (.missed id) log

/-- Deeds that lead from one log to another. -/
inductive Account : EventLog → List (Deed α) → EventLog → Prop where
  | nil {log : EventLog} : Account log [] log
  | cons {log log' log'' : EventLog} {d : Deed α} {ds : List (Deed α)} (hfirst : d.Tells log log')
      (hrest : Account log' ds log'') : Account log (d :: ds) log''

namespace Account

variable {log log' log'' : EventLog} {ds ds' : List (Deed α)}

theorem append (h : Account log ds log') (h' : Account log' ds' log'') :
    Account log (ds ++ ds') log'' := by
  induction h with
  | nil => exact h'
  | cons hfirst _ ih => exact .cons hfirst (ih h')

theorem exists_of_append (h : Account log (ds ++ ds') log'') :
    ∃ log', Account log ds log' ∧ Account log' ds' log'' := by
  induction ds generalizing log with
  | nil => exact ⟨log, .nil, h⟩
  | cons d ds ih =>
      cases h with
      | cons hfirst hrest =>
          obtain ⟨between, hbefore, hafter⟩ := ih hrest
          exact ⟨between, .cons hfirst hbefore, hafter⟩

theorem of_recorded {e : Envelope} (h : Account log [(.recorded e : Deed α)] log') :
    log.create e = .ok log' := by
  cases h with
  | cons hfirst hrest =>
      cases hrest
      cases hfirst with
      | recorded hcreate => exact hcreate

theorem of_met {id : String} (h : Account log (.met id :: ds) log') :
    (log.find? id).isSome ∧ Account log ds log' := by
  cases h with
  | cons hfirst hrest =>
      cases hfirst with
      | met hfound => exact ⟨hfound, hrest⟩

theorem of_answered {id : String} {published : Bool}
    (h : Account log (.answered id published :: ds) log') :
    log.isPublished id = published ∧ Account log ds log' := by
  cases h with
  | cons hfirst hrest =>
      cases hfirst with
      | answered hpublished => exact ⟨hpublished, hrest⟩

theorem eq_of_refused {c : LogCall} {f : Failure} (h : Account log [(.refused c f : Deed α)] log') :
    log' = log := by
  cases h with
  | cons hfirst hrest =>
      cases hfirst
      cases hrest
      rfl

theorem eq_of_forall_told (hturns : ∀ d ∈ ds, ∃ listener e outcome, d = .told listener e outcome)
    (h : Account log ds log') : log' = log := by
  induction h with
  | nil => rfl
  | cons hfirst _ ih =>
      obtain ⟨⟨listener, e, outcome, rfl⟩, hrest⟩ := List.forall_mem_cons.mp hturns
      cases hfirst
      exact ih hrest

end Account

namespace Stage

variable {env : Surroundings α σ} {registry : Registry α} {e : Envelope} {s s' : Stage α}
  {log log' : EventLog}

theorem Step.tells {d : Deed α} (h : Step env registry e s log (some d) s' log') :
    d.Tells log log' := by
  cases h with
  | refuseCreate _ | refuseLookup _ | refuseMark _ => exact .refused
  | create hcreate => exact .recorded hcreate
  | meet hfound => exact .met hfound
  | lookupPublished hpublished | lookupUnpublished hpublished => exact .answered hpublished
  | begin => exact .begun
  | tell _ | hang _ => exact .told
  | mark hmark => exact .marked hmark
  | miss hmissing => exact .missed hmissing

theorem Step.account {d : Option (Deed α)} (h : Step env registry e s log d s' log') :
    Account log d.toList log' := by
  cases d with
  | none =>
      have hsame : log' = log := h.log_eq (by simp)
      rw [hsame]
      exact .nil
  | some d => exact .cons h.tells .nil

theorem account_run (n : Nat) (s : Stage α) (w : World σ) :
    Account w.log (deeds env registry e n s w) (run env registry e n s w).2.log := by
  induction n generalizing s w with
  | zero => exact .nil
  | succ n ih => exact (step_advance s w).account.append (ih _ _)

theorem Opening.account {ds : List (Deed α)} (hopening : Opening e ds)
    (h : Account log ds log') :
    log.isPublished e.id = false ∧ (log'.find? e.id).isSome ∧ log'.isPublished e.id = false := by
  rcases hopening with rfl | rfl
  · have hcreate := h.of_recorded
    have hnew : log.isPublished e.id = false := by
      rw [EventLog.isPublished, (EventLog.create_eq_ok_iff.mp hcreate).1]
      rfl
    refine ⟨hnew, ?_, ?_⟩
    · rw [EventLog.find?_create hcreate, if_pos rfl]
      rfl
    · rw [EventLog.isPublished_create hcreate, hnew]
  · obtain ⟨hfound, hrest⟩ := h.of_met
    obtain ⟨hpublished, hnone⟩ := hrest.of_answered
    cases hnone
    exact ⟨hpublished, hfound, hpublished⟩

theorem FanningOut.account {ds : List (Deed α)} {waiting stuck : List α}
    (hfan : FanningOut registry e ds waiting stuck) (h : Account log ds log') :
    log.isPublished e.id = false ∧ (log'.find? e.id).isSome ∧ log'.isPublished e.id = false := by
  obtain ⟨opening, turns, hopening, rfl, -, -⟩ := hfan
  obtain ⟨opened, hbefore, hafter⟩ := h.exists_of_append
  cases hafter with
  | cons hfirst hrest =>
      cases hfirst
      obtain rfl : log' = opened := by
        apply hrest.eq_of_forall_told
        intro d hd
        obtain ⟨x, -, rfl⟩ := List.mem_map.mp hd
        exact ⟨x.1, e, x.2, rfl⟩
      exact hopening.account hbefore

end Stage

end SmsGateway
