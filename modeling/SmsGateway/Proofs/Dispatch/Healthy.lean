import SmsGateway.Proofs.Dispatch.Undisturbed

namespace SmsGateway

variable {α σ : Type}

/-- No log call is refused. -/
def Surroundings.IsHealthy (env : Surroundings α σ) : Prop :=
  ∀ c o, (env.refuse c o).1 = none

/-- Surroundings in which nothing goes wrong. -/
def calm : Surroundings String Unit where
  refuse _ o := (none, o)
  name := id
  handle _ _ _ o := (some .handled, o)
  enqueue _ _ o := (.ok "task-1", o)

theorem calm_isHealthy : calm.IsHealthy := fun _ _ => rfl

theorem calm_completesAll (registry : Registry String) (e : Envelope) :
    calm.CompletesAll registry e := fun _ _ _ _ => rfl

variable {env : Surroundings α σ}

theorem Surroundings.IsHealthy.not_refuses (h : env.IsHealthy) (c : LogCall) (f : Failure) :
    ¬ env.Refuses c f := by
  rintro ⟨o, hrefuse⟩
  rw [h c o] at hrefuse
  simp at hrefuse

theorem Surroundings.IsHealthy.feignsNoDuplicate (h : env.IsHealthy) : env.FeignsNoDuplicate := by
  intro c f hrefuse
  exact absurd hrefuse (h.not_refuses c f)

namespace World

theorem load_of_isHealthy (h : env.IsHealthy) (id : String) (w : World σ) :
    (w.load env id).1 = w.log.load id := by
  have hadmit : env.refuse .load w.outside = (none, (env.refuse .load w.outside).2) :=
    Prod.ext (h .load w.outside) rfl
  rw [load, call_of_admitted hadmit]

theorem isPublished_of_isHealthy (h : env.IsHealthy) (id : String) (w : World σ) :
    (w.isPublished env id).1 = .ok (w.log.isPublished id) := by
  have hadmit : env.refuse .isPublished w.outside = (none, (env.refuse .isPublished w.outside).2) :=
    Prod.ext (h .isPublished w.outside) rfl
  rw [isPublished, call_of_admitted hadmit]

end World

namespace Stage

variable {registry : Registry α} {e : Envelope}

theorem logDeed_of_isHealthy (h : env.IsHealthy) (c : LogCall) (w : World σ) (d : Deed α) :
    logDeed env c w d = d := by
  rw [logDeed, h c w.outside]

theorem recorded_mem_deeds (hhealthy : env.IsHealthy) (hrules : e.validate = .ok ()) {w : World σ}
    (hnew : w.log.find? e.id = none) (n : Nat) :
    .recorded e ∈ deeds env registry e (n + 2) .received w := by
  have hcreate : logDeed env .create w _ ∈ deeds env registry e (n + 2) .received w :=
    create_mem_deeds hrules w n
  rw [logDeed_of_isHealthy hhealthy, hnew] at hcreate
  exact hcreate

theorem find?_of_recorded {e' : Envelope} {n : Nat} {s : Stage α} {w : World σ}
    (h : .recorded e' ∈ deeds env registry e n s w) :
    ∃ published, (run env registry e n s w).2.log.find? e'.id =
      some { LogRow.ofEnvelope e' with published } := by
  induction n generalizing s w with
  | zero => simp [deeds] at h
  | succ n ih =>
      rcases List.mem_append.mp h with h | h
      · have hstep : Step env registry e s w.log (s.deed? env e w) (s.advance env registry e w).1
            (s.advance env registry e w).2.log := step_advance s w
        rw [Option.mem_toList.mp h] at hstep
        have hgrows : (s.advance env registry e w).2.log.GrowsInto
            (run env registry e (n + 1) s w).2.log := growsInto_run n _ _
        obtain ⟨published, hkept, -⟩ := hgrows _ _ hstep.find?_of_recorded.2
        exact ⟨published, hkept⟩
      · exact ih h

end Stage

namespace Dispatcher

variable {d : Dispatcher α} {e : Envelope} {w : World σ}

/-- The dispatch of a new event succeeds: the event is recorded, told to every listener and marked
as published. -/
theorem dispatchSync_of_new (hhealthy : env.IsHealthy)
    (hcomplete : env.CompletesAll d.registry e) (hrules : e.validate = .ok ())
    (hnew : w.log.find? e.id = none) :
    (d.dispatchSync env e w).1 = some (.ok ()) ∧ WholeFanOut d.registry e (d.trace env e w) ∧
      (d.dispatchSync env e w).2.log.find? e.id =
        some { LogRow.ofEnvelope e with published := true } := by
  have hrecorded : .recorded e ∈ d.deeds env e w :=
    Stage.recorded_mem_deeds hhealthy hrules hnew _
  obtain ⟨published, hrow⟩ := Stage.find?_of_recorded hrecorded
  have hlog : (d.dispatchSync env e w).2 = (d.finish env e w).2 := by rw [dispatchSync_eq]
  rw [← finish, ← hlog] at hrow
  obtain ⟨r, hr⟩ := dispatchSync_ends hcomplete w
  have hprogress := progress_dispatchSync hhealthy.feignsNoDuplicate (Prod.ext hr rfl)
  generalize hds : d.deeds env e w = ds at hprogress hrecorded
  cases hprogress with
  | invalid hfailed =>
      rw [hrules] at hfailed
      simp at hfailed
  | unrecorded hrefuse | unknown hrefuse | unmarked _ hrefuse =>
      exact absurd hrefuse (hhealthy.not_refuses _ _)
  | duplicate _ => simp at hrecorded
  | marked hfan hpublished =>
      obtain ⟨row, hfound, hmarked⟩ := EventLog.isPublished_eq_true_iff.mp hpublished
      obtain rfl := Option.some.inj (hfound.symm.trans hrow)
      obtain rfl : published = true := hmarked
      refine ⟨hr, ?_, hrow⟩
      rw [trace_eq_deeds, hds, List.filterMap_append]
      exact hfan.wholeFanOut.append rfl

theorem dispatchSync_of_published (hhealthy : env.IsHealthy) (hrules : e.validate = .ok ())
    (hpublished : w.log.isPublished e.id = true) :
    (d.dispatchSync env e w).1 = some (.error (.duplicateEvent e.id)) ∧
      (d.dispatchSync env e w).2.log = w.log ∧ d.calls env e w = [] := by
  have hidle : d.FailsIdly env e w _ (.duplicateEvent e.id) :=
    failsIdly_of_published hhealthy.feignsNoDuplicate hrules (hhealthy _ _) hpublished
      (hhealthy _ _)
  exact ⟨hidle.result, hidle.log, hidle.nobody⟩

end Dispatcher

end SmsGateway
