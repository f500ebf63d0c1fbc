import SmsGateway.Dispatch.Dispatcher
import SmsGateway.Proofs.Dispatch.Progress

namespace SmsGateway

variable {α σ κ : Type}

namespace Stage

/-- What some steps of the dispatch of an event do. -/
def deeds (env : Surroundings α σ) (registry : Registry α) (e : Envelope) :
    Nat → Stage α → World σ → List (Deed α)
  | 0, _, _ => []
  | n + 1, s, w =>
      (s.deed? env e w).toList ++
        deeds env registry e n (s.advance env registry e w).1 (s.advance env registry e w).2

variable {env : Surroundings α σ} {registry : Registry α} {e : Envelope}

theorem run_succ (n : Nat) (s : Stage α) (w : World σ) :
    run env registry e (n + 1) s w =
      run env registry e n (s.advance env registry e w).1 (s.advance env registry e w).2 := rfl

/-- Steps without interruption are the same beside a record, and the record shows what they do. -/
theorem run_records {env' : Surroundings α (σ × List κ)} {keep : TraceEntry α → Option κ}
    (h : env'.Records env keep) (n : Nat) (s : Stage α) (w : World σ) (record : List κ) :
    run env' registry e n s (w.beside record) =
      ((run env registry e n s w).1, (run env registry e n s w).2.beside
        (record ++ ((deeds env registry e n s w).filterMap Deed.asked?).filterMap keep)) := by
  induction n generalizing s w record with
  | zero => simp [run, deeds]
  | succ n ih =>
      have hfirst : ((s.deed? env e w).toList.filterMap Deed.asked?).filterMap keep =
          ((s.deed? env e w).bind fun d => d.asked?.bind keep).toList := by
        rw [filterMap_toList, filterMap_toList, Option.bind_assoc]
      rw [run_succ, run_succ, advance_records h, ih, deeds, List.filterMap_append,
        List.filterMap_append, hfirst, List.append_assoc]

theorem Progress.run (hhonest : env.FeignsNoDuplicate) {ds : List (Deed α)} {s : Stage α}
    {w : World σ} (h : Progress env registry e w.log ds s) (n : Nat) :
    Progress env registry e (Stage.run env registry e n s w).2.log
      (ds ++ Stage.deeds env registry e n s w) (Stage.run env registry e n s w).1 := by
  induction n generalizing ds s w with
  | zero => simpa [Stage.run, deeds] using h
  | succ n ih =>
      rw [run_succ, deeds, ← List.append_assoc]
      exact ih (h.step hhonest (step_advance s w))

theorem growsInto_run (n : Nat) (s : Stage α) (w : World σ) :
    w.log.GrowsInto (run env registry e n s w).2.log := by
  induction n generalizing s w with
  | zero => exact EventLog.growsInto_refl w.log
  | succ n ih => exact (step_advance s w).growsInto.trans (ih _ _)

theorem log_run_eq (n : Nat) (s : Stage α) (w : World σ)
    (hread : ∀ d ∈ deeds env registry e n s w, ¬ d.IsWrite) :
    (run env registry e n s w).2.log = w.log := by
  induction n generalizing s w with
  | zero => rfl
  | succ n ih =>
      rw [deeds, List.forall_mem_append] at hread
      rw [run_succ, ih _ _ hread.2]
      apply (step_advance s w).log_eq
      intro d hd
      exact hread.1 d (Option.mem_toList.mpr hd)

def result? : Stage α → Option (Except Failure Unit)
  | .ended r => some r
  | _ => none

theorem result?_eq_some_iff {s : Stage α} {r : Except Failure Unit} :
    s.result? = some r ↔ s = .ended r := by
  cases s <;> simp [result?]

end Stage

namespace Dispatcher

variable (d : Dispatcher α) (env : Surroundings α σ) (e : Envelope)

/-- What a dispatch at once does. -/
def deeds (w : World σ) : List (Deed α) :=
  Stage.deeds env d.registry e (d.stepsToPublish e + 4) .received w

/-- Where a dispatch at once comes to, and what the world is then. -/
def finish (w : World σ) : Stage α × World σ :=
  Stage.run env d.registry e (d.stepsToPublish e + 4) .received w

theorem dispatchSync_eq (w : World σ) :
    d.dispatchSync env e w = ((d.finish env e w).1.result?, (d.finish env e w).2) := by
  rw [dispatchSync, finish]
  rcases Stage.run env d.registry e (d.stepsToPublish e + 4) .received w with ⟨s, w'⟩
  cases s <;> rfl

/-- What the outside is asked in the course of a dispatch at once, and what it answers. -/
def trace (w : World σ) : List (TraceEntry α) :=
  (d.dispatchSync env.traced e (w.beside [])).2.outside.2

variable {d env e}

theorem trace_eq_deeds (w : World σ) :
    d.trace env e w = (d.deeds env e w).filterMap Deed.asked? := by
  rw [trace, dispatchSync_eq, finish, Stage.run_records env.traced_records]
  exact List.filterMap_some

/-- A dispatch at once is the same beside a record, which holds what is kept of the trace. -/
theorem dispatchSync_records {env' : Surroundings α (σ × List κ)} {keep : TraceEntry α → Option κ}
    (h : env'.Records env keep) (w : World σ) (record : List κ) :
    d.dispatchSync env' e (w.beside record) =
      ((d.dispatchSync env e w).1, (d.dispatchSync env e w).2.beside
        (record ++ (d.trace env e w).filterMap keep)) := by
  rw [trace_eq_deeds, dispatchSync_eq, dispatchSync_eq, finish, Stage.run_records h]
  rfl

theorem growsInto_dispatchSync (w : World σ) :
    w.log.GrowsInto (d.dispatchSync env e w).2.log := by
  rw [dispatchSync_eq]
  exact Stage.growsInto_run _ _ _

theorem progress_finish (hhonest : env.FeignsNoDuplicate) (w : World σ) :
    Stage.Progress env d.registry e (d.finish env e w).2.log (d.deeds env e w)
      (d.finish env e w).1 := by
  have hreceived : Stage.Progress env d.registry e w.log [] .received := .received
  exact hreceived.run hhonest _

theorem progress_dispatchSync (hhonest : env.FeignsNoDuplicate) {w w' : World σ}
    {r : Except Failure Unit} (h : d.dispatchSync env e w = (some r, w')) :
    Stage.Progress env d.registry e w'.log (d.deeds env e w) (.ended r) := by
  rw [dispatchSync_eq] at h
  obtain ⟨hr, rfl⟩ := Prod.mk.inj h
  rw [← Stage.result?_eq_some_iff.mp hr]
  exact progress_finish hhonest w

theorem dispatchSync_of_refused (hhonest : env.FeignsNoDuplicate) {w : World σ} {c : LogCall}
    {f : Failure} (hrefused : .refused c f ∈ d.deeds env e w) :
    (d.dispatchSync env e w).1 = some (.error f) ∧ env.Refuses c f := by
  obtain ⟨hended, hrefuse⟩ := (progress_finish hhonest w).of_refused hrefused
  rw [dispatchSync_eq, hended]
  exact ⟨rfl, hrefuse⟩

theorem log_dispatchSync_eq {w : World σ} (hread : ∀ x ∈ d.deeds env e w, ¬ x.IsWrite) :
    (d.dispatchSync env e w).2.log = w.log := by
  rw [dispatchSync_eq]
  exact Stage.log_run_eq _ _ _ hread

end Dispatcher

end SmsGateway
