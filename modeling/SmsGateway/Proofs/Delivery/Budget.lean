import Mathlib.Data.Nat.Find
import SmsGateway.Proofs.Delivery.Attempts

namespace SmsGateway

/-- A receiver: how it is going to reply, and the requests that it has had. -/
structure Receiver where
  script : Nat → Reply
  requests : List DeliveryTask

/-- A receiver takes a request and replies. -/
def Receiver.answer (t : DeliveryTask) (r : Receiver) : Reply × Receiver :=
  (r.script 0, ⟨fun i => r.script (i + 1), r.requests ++ [t]⟩)

namespace Delivery

section Attempts

variable {σ : Type} {call : DeliveryTask → σ → Reply × σ} {p : RetryPolicy} {t : DeliveryTask}
  {repetitions : Nat} {delay : Time.Span} {s : σ}

theorem attempt_of_settles (h : (call t s).1.Settles) :
    ∃ notice, attempt call p t repetitions delay s =
      (if (call t s).1.Accepts then .delivered else .dropped, [notice], (call t s).2) := by
  have hsettled : ¬ ∃ message, (call t s).1.verdict = .transient message :=
    fun htransient => Reply.exists_transient_iff.mp htransient h
  rw [attempt, ← if_congr Reply.verdict_eq_success_iff rfl rfl]
  dsimp only
  rcases hverdict : (call t s).1.verdict with _ | message | message
  · exact ⟨_, rfl⟩
  · exact absurd ⟨message, hverdict⟩ hsettled
  · exact ⟨_, rfl⟩

theorem attempt_of_exhausted (h : ¬ (call t s).1.Settles) :
    ∃ notice, attempt call p t 0 delay s = (.dropped, [notice], (call t s).2) := by
  obtain ⟨message, hverdict⟩ := Reply.exists_transient_iff.mpr h
  rw [attempt]
  dsimp only
  rw [hverdict]
  exact ⟨_, rfl⟩

theorem attempt_of_repeated (h : ¬ (call t s).1.Settles) :
    ∃ notice, attempt call p t (repetitions + 1) delay s =
      noting [notice] (attempt call p t repetitions (p.nextDelay delay) (call t s).2) := by
  obtain ⟨message, hverdict⟩ := Reply.exists_transient_iff.mpr h
  rw [attempt]
  dsimp only
  rw [hverdict]
  exact ⟨_, rfl⟩

end Attempts

variable {script : Nat → Reply} {otherwise : Nat}

open Classical in
/-- The place, counted from one, of the first reply that settles a delivery, and `otherwise` if none
of them does. -/
noncomputable def firstSettling (script : Nat → Reply) (otherwise : Nat) : Nat :=
  if h : ∃ i, (script i).Settles then Nat.find h + 1 else otherwise

theorem firstSettling_of_settles (h : (script 0).Settles) :
    firstSettling script otherwise = 1 := by
  classical
  have hfirst : ∃ i, (script i).Settles := ⟨0, h⟩
  rw [firstSettling, dif_pos hfirst, (Nat.find_eq_zero hfirst).mpr h]

theorem firstSettling_succ (h : ¬ (script 0).Settles) :
    firstSettling script (otherwise + 1) =
      firstSettling (fun i => script (i + 1)) otherwise + 1 := by
  classical
  by_cases hlater : ∃ i, (script (i + 1)).Settles
  · have hfirst : ∃ i, (script i).Settles := ⟨_, hlater.choose_spec⟩
    rw [firstSettling, firstSettling, dif_pos hfirst, dif_pos hlater,
      Nat.find_comp_succ hfirst hlater h]
  · have hnever : ¬ ∃ i, (script i).Settles := by
      rintro ⟨_ | i, hi⟩
      · exact h hi
      · exact hlater ⟨i, hi⟩
    rw [firstSettling, firstSettling, dif_neg hnever, dif_neg hlater]

theorem firstSettling_pos (h : 0 < otherwise) : 0 < firstSettling script otherwise := by
  rw [firstSettling]
  split
  · exact Nat.succ_pos _
  · exact h

/-- What a delivery comes to that has had some requests and may take so many attempts more. -/
structure Accounted (t : DeliveryTask) (script : Nat → Reply) (before : List DeliveryTask)
    (attempts : Nat) (result : DeliveryEnd × List Notice × Receiver) : Prop where
  requests : result.2.2.requests =
    before ++ List.replicate (min (firstSettling script attempts) attempts) t
  ending : result.1 =
    if firstSettling script attempts ≤ attempts ∧
      (script (firstSettling script attempts - 1)).Accepts then .delivered else .dropped

variable {p : RetryPolicy} {t : DeliveryTask} {repetitions : Nat} {delay : Time.Span}
  {before : List DeliveryTask}

theorem accounted_of_settles (h : (script 0).Settles) :
    Accounted t script before (repetitions + 1)
      (attempt Receiver.answer p t repetitions delay ⟨script, before⟩) := by
  obtain ⟨notice, hattempt⟩ : ∃ notice, attempt Receiver.answer p t repetitions delay
      ⟨script, before⟩ = (if (script 0).Accepts then .delivered else .dropped, [notice], _) :=
    attempt_of_settles h
  have hfirst : firstSettling script (repetitions + 1) = 1 := firstSettling_of_settles h
  rw [hattempt]
  constructor
  · rw [hfirst, min_eq_left (Nat.succ_pos _)]
    rfl
  · rw [hfirst]
    exact if_congr (and_iff_right (Nat.succ_pos _)).symm rfl rfl

/-- The induction is on the repetitions that are left: each reply that does not settle the delivery
takes one of them and leaves the script of the others. -/
theorem accounted_attempt :
    Accounted t script before (repetitions + 1)
      (attempt Receiver.answer p t repetitions delay ⟨script, before⟩) := by
  induction repetitions generalizing script before delay with
  | zero =>
      by_cases h : (script 0).Settles
      · exact accounted_of_settles h
      · obtain ⟨notice, hattempt⟩ : ∃ notice, attempt Receiver.answer p t 0 delay
            ⟨script, before⟩ = (.dropped, [notice], _) := attempt_of_exhausted h
        have hfirst : firstSettling script (0 + 1) = _ := firstSettling_succ h
        rw [hattempt]
        constructor
        · rw [hfirst, Nat.add_min_add_right, Nat.min_zero]
          rfl
        · rw [hfirst]
          symm
          apply if_neg
          rintro ⟨hle, haccepts⟩
          rw [Nat.le_zero.mp (Nat.le_of_succ_le_succ hle)] at haccepts
          exact h haccepts.settles
  | succ repetitions ih =>
      by_cases h : (script 0).Settles
      · exact accounted_of_settles h
      · obtain ⟨notice, hattempt⟩ : ∃ notice, attempt Receiver.answer p t (repetitions + 1) delay
            ⟨script, before⟩ = noting [notice] (attempt Receiver.answer p t repetitions
              (p.nextDelay delay) ⟨fun i => script (i + 1), before ++ [t]⟩) :=
          attempt_of_repeated h
        obtain ⟨hrequests, hending⟩ : Accounted t (fun i => script (i + 1)) (before ++ [t])
            (repetitions + 1) (attempt Receiver.answer p t repetitions (p.nextDelay delay)
              ⟨fun i => script (i + 1), before ++ [t]⟩) := ih
        have hfirst : firstSettling script (repetitions + 1 + 1) = _ := firstSettling_succ h
        have hpos : 0 < firstSettling (fun i => script (i + 1)) (repetitions + 1) :=
          firstSettling_pos (Nat.succ_pos repetitions)
        rw [hattempt]
        constructor
        · rw [noting, hrequests, hfirst, Nat.add_min_add_right, List.replicate_succ,
            List.append_assoc]
          rfl
        · rw [noting, hending, hfirst]
          apply if_congr _ rfl rfl
          rw [Nat.add_le_add_iff_right, Nat.add_sub_cancel, Nat.sub_add_cancel hpos]

/-- A delivery makes a request for each reply up to the first that settles it, and never more than
its policy allows. It ends as delivered if that reply came in time and accepts the task, and is
dropped otherwise. Every request is the task that was handed in. -/
theorem requests_are_accounted (p : RetryPolicy) (t : DeliveryTask) (script : Nat → Reply) :
    let n := p.maxRetries.toNat
    let i := firstSettling script (n + 1)
    let result := run Receiver.answer p t ⟨script, []⟩
    result.2.2.requests = List.replicate (min i (n + 1)) t ∧
      result.1 = if i ≤ n + 1 ∧ (script (i - 1)).Accepts then .delivered else .dropped := by
  intro n i result
  obtain ⟨hrequests, hending⟩ : Accounted t script [] (n + 1) result := accounted_attempt
  exact ⟨hrequests, hending⟩

end Delivery

end SmsGateway
