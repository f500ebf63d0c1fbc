import Mathlib.Data.List.Basic
import SmsGateway.Proofs.Dispatch.Observed

namespace SmsGateway

variable {α σ : Type}

/-- Every listener of an event completes when it handles the event, in whatever way. -/
def Surroundings.CompletesAll (env : Surroundings α σ) (registry : Registry α) (e : Envelope) :
    Prop :=
  ∀ listener ∈ registry.listeners e.type, ∀ log o, (env.handle listener e log o).1.isSome

namespace Stage

variable {env : Surroundings α σ} {registry : Registry α} {e : Envelope}

/-- How many more steps a dispatch may take. -/
def remaining (registry : Registry α) (e : Envelope) : Stage α → Nat
  | .received => registry.count e.type + 6
  | .checked => registry.count e.type + 5
  | .taken _ => registry.count e.type + 4
  | .recorded => registry.count e.type + 3
  | .publishing f => f.waiting.length + 2
  | .published _ => 1
  | .ended _ => 0

/-- No listener is stuck, and only subscribed ones are waiting. -/
def Flows (registry : Registry α) (e : Envelope) : Stage α → Prop
  | .publishing f => f.stuck = [] ∧ ∀ listener ∈ f.waiting, listener ∈ registry.listeners e.type
  | _ => True

theorem isSome_of_deed? (hcomplete : env.CompletesAll registry e) {s : Stage α}
    (hflows : s.Flows registry e) {w : World σ} {listener : α} {e' : Envelope}
    {outcome : Option Outcome} (h : s.deed? env e w = some (.told listener e' outcome)) :
    outcome.isSome := by
  cases s with
  | publishing f =>
      obtain ⟨hstuck, hwaiting⟩ := hflows
      obtain ⟨first, hfirst, heq⟩ := Option.map_eq_some_iff.mp h
      obtain ⟨rfl, rfl, rfl⟩ := Deed.told.inj heq
      exact hcomplete first (hwaiting first (List.mem_of_mem_head? hfirst)) w.log w.outside
  | checked | taken _ | published _ =>
      simp only [deed?, logDeed, Option.some.injEq] at h
      repeat' split at h
      all_goals simp at h
  | _ => simp [deed?] at h

theorem Step.remaining_le {s s' : Stage α} {log log' : EventLog} {d : Option (Deed α)}
    (h : Step env registry e s log d s' log') (hflows : s.Flows registry e)
    (htold : ∀ listener e', d ≠ some (.told listener e' none)) :
    s'.Flows registry e ∧ s'.remaining registry e ≤ s.remaining registry e - 1 := by
  cases h with
  | refuseCreate hrefuse =>
      split
      · exact ⟨trivial, by simp [remaining]⟩
      · exact ⟨trivial, by simp [remaining]⟩
  | begin => exact ⟨⟨rfl, fun listener h => h⟩, by simp [remaining, Registry.count]⟩
  | tell hwaiting =>
      obtain ⟨hstuck, hmem⟩ := hflows
      refine ⟨⟨hstuck, ?_⟩, ?_⟩
      · intro listener hlistener
        exact hmem listener (hwaiting.mem_iff.mpr (List.mem_cons_of_mem _ hlistener))
      · have hlength := hwaiting.length_eq
        simp only [remaining, List.length_cons] at hlength ⊢
        omega
  | hang hwaiting => exact absurd rfl (htold _ e)
  | stall hwaiting hstuck => exact absurd hflows.1 hstuck
  | _ => exact ⟨trivial, by simp [remaining]⟩

theorem remaining_run_le (n : Nat) {s : Stage α} (hflows : s.Flows registry e) (w : World σ)
    (hended : ∀ listener e', .told listener e' none ∉ deeds env registry e n s w) :
    (run env registry e n s w).1.remaining registry e ≤ s.remaining registry e - n := by
  induction n generalizing s w with
  | zero => exact Nat.le_refl _
  | succ n ih =>
      have hstep : Step env registry e s w.log (s.deed? env e w) (s.advance env registry e w).1
          (s.advance env registry e w).2.log := step_advance s w
      have htold : ∀ listener e', s.deed? env e w ≠ some (.told listener e' none) := by
        intro listener e' h
        exact hended listener e' (List.mem_append_left _ (Option.mem_toList.mpr h))
      obtain ⟨hnext, hle⟩ := hstep.remaining_le hflows htold
      have hrest := ih hnext (s.advance env registry e w).2
        fun listener e' h => hended listener e' (List.mem_append_right _ h)
      rw [run_succ]
      omega

theorem completed_run (hcomplete : env.CompletesAll registry e) (n : Nat) {s : Stage α}
    (hflows : s.Flows registry e) (w : World σ) :
    ∀ listener e' outcome, .told listener e' outcome ∈ deeds env registry e n s w →
      outcome.isSome := by
  induction n generalizing s w with
  | zero => simp [deeds]
  | succ n ih =>
      have hstep : Step env registry e s w.log (s.deed? env e w) (s.advance env registry e w).1
          (s.advance env registry e w).2.log := step_advance s w
      have htold : ∀ listener e', s.deed? env e w ≠ some (.told listener e' none) := by
        intro listener e' h
        have := isSome_of_deed? hcomplete hflows h
        simp at this
      intro listener e' outcome hmem
      rcases List.mem_append.mp hmem with hmem | hmem
      · exact isSome_of_deed? hcomplete hflows (Option.mem_toList.mp hmem)
      · exact ih (hstep.remaining_le hflows htold).1 _ listener e' outcome hmem

theorem ended_of_remaining_eq_zero {s : Stage α} (h : s.remaining registry e = 0) :
    ∃ r, s = .ended r := by
  cases s with
  | ended r => exact ⟨r, rfl⟩
  | _ => simp [remaining] at h

end Stage

theorem WholeFanOut.told_once {registry : Registry α} {e : Envelope} {trace : List (TraceEntry α)}
    (h : WholeFanOut registry e trace) :
    ((turnsIn trace).map fun t => OutsideCall.told t.listener t.event).Perm
      ((registry.listeners e.type).map (.told · e)) := by
  have htold : (turnsIn trace).map (fun t => OutsideCall.told t.listener t.event) =
      ((turnsIn trace).map Turn.listener).map (.told · e) := by
    rw [List.map_map]
    apply List.map_congr_left
    intro t ht
    rw [h.same_event t ht]
    rfl
  rw [htold]
  exact h.once.map _

namespace Dispatcher

variable {d : Dispatcher α} {env : Surroundings α σ} {e : Envelope}

theorem mem_turnsIn_trace {w : World σ} {t : Turn α} :
    t ∈ turnsIn (d.trace env e w) ↔ .told t.listener t.event t.outcome ∈ d.deeds env e w := by
  rw [trace_eq_deeds]
  induction d.deeds env e w with
  | nil => simp [turnsIn]
  | cons x xs ih =>
      cases x with
      | told listener e outcome =>
          rw [List.mem_cons, ← ih]
          obtain ⟨listener', e', outcome'⟩ := t
          simp [turnsIn, Deed.asked?, TraceEntry.turn?]
      | _ => simpa [turnsIn, Deed.asked?, TraceEntry.turn?] using ih

theorem completed_of_turn (hcomplete : env.CompletesAll d.registry e) {w : World σ} :
    ∀ t ∈ turnsIn (d.trace env e w), t.outcome.isSome := by
  intro t ht
  exact Stage.completed_run hcomplete _ (s := .received) trivial w _ _ _ (mem_turnsIn_trace.mp ht)

theorem dispatchSync_ends_of_turns {w : World σ}
    (hended : ∀ t ∈ turnsIn (d.trace env e w), t.outcome.isSome) :
    ∃ r, (d.dispatchSync env e w).1 = some r := by
  have hnone : ∀ listener e', .told listener e' none ∉ d.deeds env e w := by
    intro listener e' htold
    have hturn : (⟨listener, e', none⟩ : Turn α) ∈ turnsIn (d.trace env e w) :=
      mem_turnsIn_trace.mpr htold
    simpa using hended _ hturn
  have hle := Stage.remaining_run_le (d.stepsToPublish e + 4) (s := .received) trivial w hnone
  have hzero : (d.finish env e w).1.remaining d.registry e = 0 := by
    simp only [finish, Stage.remaining, stepsToPublish] at hle ⊢
    omega
  obtain ⟨r, hr⟩ := Stage.ended_of_remaining_eq_zero hzero
  refine ⟨r, ?_⟩
  rw [dispatchSync_eq, hr]
  rfl

theorem dispatchSync_ends (hcomplete : env.CompletesAll d.registry e) (w : World σ) :
    ∃ r, (d.dispatchSync env e w).1 = some r :=
  dispatchSync_ends_of_turns (completed_of_turn hcomplete)

end Dispatcher

end SmsGateway
