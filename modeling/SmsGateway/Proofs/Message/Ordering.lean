import Mathlib.Order.Bounds.Basic
import Mathlib.Order.MinMax
import SmsGateway.Event.Kind
import SmsGateway.Proofs.Message.Convergence

namespace SmsGateway

open SmsGateway.Time

/-- What is done to a message: a transition is made or a report applied, or a report is applied and
told of by an event. -/
inductive Operation where
  | hear (tiding : Tiding)
  | report (eventId : String) (name : ReportName) (time : Instant) (reason : Option String)

def Transition.time? : Transition → Option Instant
  | .scheduledFor time | .sendAttempt time | .sent time | .delivered time | .failed time _
  | .expired time | .notificationScheduled time => some time
  | .countAttempt | .limitAttempts _ => none

def Tiding.time? : Tiding → Option Instant
  | .made t => t.time?
  | .reported _ time _ => some time

/-- The time that an operation comes with. -/
def Operation.time? : Operation → Option Instant
  | .hear tiding => tiding.time?
  | .report _ _ time _ => some time

namespace Message

def operate (m : Message) (now : Instant) : Operation → Message
  | .hear tiding => m.apply now tiding.transition
  | .report eventId name time reason => (m.report now eventId name time reason).1

/-- Carries out operations one after another, each at its own wall-clock time. -/
def operateAll (m : Message) (steps : List (Instant × Operation)) : Message :=
  steps.foldl (fun m step => m.operate step.1 step.2) m

theorem transition_time? (tiding : Tiding) : tiding.transition.time? = tiding.time? := by
  cases tiding with
  | made t => rfl
  | reported name time reason => cases name <;> rfl

theorem orderTimestamp_apply (m : Message) (now : Instant) (t : Transition) :
    (m.apply now t).orderTimestamp = t.time?.elim m.orderTimestamp (max m.orderTimestamp) := by
  have hmerge : ∀ m' : Message, m'.orderTimestamp = m.orderTimestamp → ∀ time,
      (m'.touch time now).orderTimestamp = max m.orderTimestamp time := by
    intro m' hm' time
    rw [← hm', ← Instant.later_eq_max]
    rfl
  cases t with
  | countAttempt | limitAttempts count => rfl
  | _ => exact hmerge _ rfl _

theorem orderTimestamp_operate (m : Message) (now : Instant) (op : Operation) :
    (m.operate now op).orderTimestamp = op.time?.elim m.orderTimestamp (max m.orderTimestamp) := by
  cases op with
  | hear tiding =>
      rw [operate, orderTimestamp_apply, transition_time?]
      rfl
  | report eventId name time reason =>
      have htime : (Transition.ofReport name time reason).time? = some time :=
        transition_time? (.reported name time reason)
      change (m.apply now (.ofReport name time reason)).orderTimestamp = _
      rw [orderTimestamp_apply, htime]
      rfl

theorem le_orderTimestamp_operate (m : Message) (now : Instant) (op : Operation) :
    m.orderTimestamp ≤ (m.operate now op).orderTimestamp := by
  rw [orderTimestamp_operate]
  cases op.time? with
  | none => exact le_rfl
  | some time => exact le_max_left _ _

theorem time_le_orderTimestamp_operate (m : Message) (now : Instant) {op : Operation}
    {time : Instant} (h : op.time? = some time) :
    time ≤ (m.operate now op).orderTimestamp := by
  rw [orderTimestamp_operate, h]
  exact le_max_right _ _

theorem orderTimestamp_operate_mem (m : Message) (now : Instant) (op : Operation) :
    (m.operate now op).orderTimestamp = m.orderTimestamp ∨
      op.time? = some (m.operate now op).orderTimestamp := by
  rw [orderTimestamp_operate]
  cases op.time? with
  | none => exact .inl rfl
  | some time =>
      rcases max_choice m.orderTimestamp time with hold | hnew
      · exact .inl hold
      · exact .inr (congrArg some hnew.symm)

theorem isGreatest_orderTimestamp (m : Message) (steps : List (Instant × Operation)) :
    IsGreatest {t | t = m.orderTimestamp ∨ ∃ step ∈ steps, step.2.time? = some t}
      (m.operateAll steps).orderTimestamp := by
  induction steps generalizing m with
  | nil =>
      constructor
      · exact .inl rfl
      · rintro t (rfl | ⟨step, hstep, -⟩)
        · exact le_rfl
        · simp at hstep
  | cons step steps ih =>
      obtain ⟨hmem, hle⟩ := ih (m.operate step.1 step.2)
      have hkept : (m.operate step.1 step.2).orderTimestamp ≤
          (m.operateAll (step :: steps)).orderTimestamp := hle (.inl rfl)
      constructor
      · rcases hmem with hfirst | ⟨other, hother, htime⟩
        · change (m.operateAll (step :: steps)).orderTimestamp = _ at hfirst
          rw [hfirst]
          rcases orderTimestamp_operate_mem m step.1 step.2 with hsame | htime
          · exact .inl hsame
          · exact .inr ⟨step, List.mem_cons_self, htime⟩
        · exact .inr ⟨other, List.mem_cons_of_mem step hother, htime⟩
      · rintro t (rfl | ⟨other, hother, htime⟩)
        · exact (le_orderTimestamp_operate m step.1 step.2).trans hkept
        · rcases List.mem_cons.mp hother with rfl | hother
          · exact (time_le_orderTimestamp_operate m other.1 htime).trans hkept
          · exact hle (.inr ⟨other, hother, htime⟩)

theorem orderTimestamp_le_of_prefix {m : Message} {before steps : List (Instant × Operation)}
    (h : before <+: steps) :
    (m.operateAll before).orderTimestamp ≤ (m.operateAll steps).orderTimestamp := by
  obtain ⟨after, rfl⟩ := h
  rw [operateAll, operateAll, List.foldl_append]
  exact (isGreatest_orderTimestamp _ after).2 (.inl rfl)

/-- The order timestamp is the greatest of the one that a message began with and of all times that
operations came with. So it never goes back, and only depends on which operations there were:
neither on their order nor on how often each was carried out. -/
theorem orderTimestamp_is_maximum (m : Message) (steps : List (Instant × Operation)) :
    IsGreatest {t | t = m.orderTimestamp ∨ ∃ step ∈ steps, step.2.time? = some t}
        (m.operateAll steps).orderTimestamp ∧
      (∀ before, before <+: steps →
        (m.operateAll before).orderTimestamp ≤ (m.operateAll steps).orderTimestamp) ∧
      ∀ others : List (Instant × Operation),
        (∀ op, (∃ step ∈ steps, step.2 = op) ↔ ∃ other ∈ others, other.2 = op) →
          (m.operateAll others).orderTimestamp = (m.operateAll steps).orderTimestamp := by
  refine ⟨isGreatest_orderTimestamp m steps, fun before => orderTimestamp_le_of_prefix, ?_⟩
  intro others hsame
  have htimes : ∀ t, (∃ step ∈ steps, step.2.time? = some t) ↔
      ∃ other ∈ others, other.2.time? = some t := by
    intro t
    constructor
    · rintro ⟨step, hstep, htime⟩
      obtain ⟨other, hother, heq⟩ := (hsame step.2).mp ⟨step, hstep, rfl⟩
      exact ⟨other, hother, heq ▸ htime⟩
    · rintro ⟨other, hother, htime⟩
      obtain ⟨step, hstep, heq⟩ := (hsame other.2).mpr ⟨other, hother, rfl⟩
      exact ⟨step, hstep, heq ▸ htime⟩
  have hgreatest := isGreatest_orderTimestamp m others
  simp only [← htimes] at hgreatest
  exact hgreatest.unique (isGreatest_orderTimestamp m steps)

theorem orderTimestamp_is_maximum_leap :
    let t (nano : Fin 2000000000) : Instant :=
      ⟨⟨2016, 12, 31, by decide, by decide⟩, 86399, nano, by decide, nano.isLt⟩
    let m :=
      outbound ⟨List.replicate 16 0, rfl⟩ "+18005550199" "+18005550100" "hello" "user-1" (t 0)
    let sent := Operation.hear (.reported .sent (t 1500000000) none)
    let delivered := Operation.report "event-1" .delivered (t 999999999) none
    let counted := Operation.hear (.made .countAttempt)
    let steps := [(t 1, sent), (t 2, delivered), (t 3, counted)]
    let others := [(t 4, delivered), (t 5, counted), (t 6, sent), (t 7, delivered)]
    (∀ op, (∃ step ∈ steps, step.2 = op) ↔ ∃ other ∈ others, other.2 = op) ∧
      (m.operateAll steps).orderTimestamp = t 1500000000 ∧
      (m.operateAll others).orderTimestamp = t 1500000000 := by
  intro t m sent delivered counted steps others
  have hsame : ∀ op, (∃ step ∈ steps, step.2 = op) ↔ ∃ other ∈ others, other.2 = op := by
    intro op
    simp only [steps, others, List.mem_cons, List.not_mem_nil, or_false, exists_eq_or_imp,
      exists_eq_left]
    tauto
  have hsteps : (m.operateAll steps).orderTimestamp = t 1500000000 := by decide +kernel
  obtain ⟨-, -, hothers⟩ := orderTimestamp_is_maximum m steps
  exact ⟨hsame, hsteps, (hothers others hsame).trans hsteps⟩

end Message

end SmsGateway
