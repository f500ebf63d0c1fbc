import SmsGateway.Event.Envelope

namespace SmsGateway.Envelope

/-- A failure of the rules, as the log and the server tell failures apart. -/
def IsBrokenRule (f : Failure) : Prop :=
  f.family = .validation ∧ f.isDuplicate = false

theorem forM_eq_ok_iff {β : Type} {check : β → Except Failure Unit} {xs : List β} :
    xs.forM check = .ok () ↔ ∀ x ∈ xs, check x = .ok () := by
  induction xs with
  | nil => simp [pure, Except.pure]
  | cons x xs ih =>
      rw [List.forall_mem_cons, ← ih]
      change (check x >>= fun _ => xs.forM check) = _ ↔ _
      cases check x with
      | ok u => simp [bind, Except.bind]
      | error f => simp [bind, Except.bind]

theorem exists_of_forM_eq_error {β : Type} {check : β → Except Failure Unit} {xs : List β}
    {f : Failure} (h : xs.forM check = .error f) : ∃ x ∈ xs, check x = .error f := by
  induction xs with
  | nil => simp [pure, Except.pure] at h
  | cons x xs ih =>
      change (check x >>= fun _ => xs.forM check) = _ at h
      cases hx : check x with
      | ok u =>
          rw [hx] at h
          obtain ⟨y, hy, hcheck⟩ := ih h
          exact ⟨y, List.mem_cons_of_mem x hy, hcheck⟩
      | error g =>
          rw [hx] at h
          obtain rfl : g = f := by simpa [bind, Except.bind] using h
          exact ⟨x, List.mem_cons_self, hx⟩

theorem isBrokenRule_of_validateName {name : String} {f : Failure}
    (h : validateName name = .error f) : IsBrokenRule f := by
  unfold validateName at h
  split at h
  · obtain rfl := Except.error.inj h
    exact ⟨rfl, rfl⟩
  · split at h
    · obtain rfl := Except.error.inj h
      exact ⟨rfl, rfl⟩
    · simp at h

theorem not_mem_coreNames_of_validateName {name : String} (h : validateName name = .ok ()) :
    name ∉ coreNames := by
  unfold validateName at h
  split at h
  · simp at h
  · split at h
    · simp at h
    · assumption

theorem isBrokenRule_of_validate {e : Envelope} {f : Failure} (h : e.validate = .error f) :
    IsBrokenRule f := by
  unfold validate at h
  repeat' split at h
  case isFalse.isFalse.isFalse.isFalse.isFalse.isFalse.isFalse.isFalse =>
    obtain ⟨x, -, hx⟩ := exists_of_forM_eq_error h
    exact isBrokenRule_of_validateName hx
  all_goals
    obtain rfl := Except.error.inj h
    exact ⟨rfl, rfl⟩

theorem not_mem_coreNames_of_validate {e : Envelope} (h : e.validate = .ok ()) :
    ∀ x ∈ e.extensions, x.1 ∉ coreNames := by
  unfold validate at h
  repeat' split at h
  case isFalse.isFalse.isFalse.isFalse.isFalse.isFalse.isFalse.isFalse =>
    intro x hx
    exact not_mem_coreNames_of_validateName (forM_eq_ok_iff.mp h x hx)
  all_goals simp at h

end SmsGateway.Envelope
