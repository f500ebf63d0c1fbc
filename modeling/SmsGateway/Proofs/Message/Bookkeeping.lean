import Mathlib.Data.List.DropRight
import SmsGateway.Proofs.Message.Ordering

namespace SmsGateway

open SmsGateway.Time

namespace Transition

/-- Whether a transition is a change in the life of a message, and not one that it is made with. -/
def isLifecycle : Transition → Bool
  | .scheduledFor _ | .limitAttempts _ => false
  | _ => true

/-- The status that a transition sets, whatever it was before. -/
def status? (t : Transition) : Option MessageStatus :=
  t.kind?.bind Kind.status?

/-- The reason that a failure comes with. -/
def reason? : Transition → Option String
  | .failed _ reason => some reason
  | _ => none

end Transition

/-- The transitions that are told. -/
def transitions (tidings : List (Instant × Tiding)) : List Transition :=
  tidings.map fun x => x.2.transition

theorem transitions_concat (tidings : List (Instant × Tiding)) (x : Instant × Tiding) :
    transitions (tidings ++ [x]) = transitions tidings ++ [x.2.transition] :=
  List.map_append

def lastOf? (k : Transition.Kind) (transitions : List Transition) : Option Transition :=
  (transitions.filter fun t => t.kind? = some k).getLast?

theorem lastOf?_concat (k : Transition.Kind) (transitions : List Transition) (t : Transition) :
    lastOf? k (transitions ++ [t]) =
      if t.kind? = some k then some t else lastOf? k transitions := by
  rw [lastOf?, List.filter_append]
  split
  · next hkind => rw [List.filter_cons_of_pos (by simpa using hkind), List.filter_nil,
      List.getLast?_concat]
  · next hkind =>
      rw [List.filter_cons_of_neg (by simpa using hkind), List.filter_nil, List.append_nil]
      rfl

namespace Message

/-- The time that a kind of transition is noted with. -/
def timeOf (m : Message) : Transition.Kind → Option Instant
  | .sendAttempt => m.lastAttemptedAt
  | .sent => m.sentAt
  | .delivered => m.deliveredAt
  | .failed => m.failedAt
  | .expired => m.expiredAt
  | .notificationScheduled => m.notificationScheduledAt

/-- The status that was set last, unless the message was waiting then and the phone has been
notified since. -/
def lastingStatus (m : Message) (transitions : List Transition) : MessageStatus :=
  let last := (transitions.filterMap Transition.status?).getLastD m.status
  let since := transitions.rtakeWhile fun t => t.status?.isNone
  if (last = .pending ∨ last = .expired) ∧ ∃ t ∈ since, t.kind? = some .notificationScheduled then
    .scheduled
  else last

/-- What a message is made with stays. -/
structure IsSame (m m' : Message) : Prop where
  id : m'.id = m.id
  owner : m'.owner = m.owner
  userId : m'.userId = m.userId
  contact : m'.contact = m.contact
  content : m'.content = m.content
  type : m'.type = m.type
  sim : m'.sim = m.sim
  requestReceivedAt : m'.requestReceivedAt = m.requestReceivedAt
  createdAt : m'.createdAt = m.createdAt
  receivedAt : m'.receivedAt = m.receivedAt
  maxSendAttempts : m'.maxSendAttempts = m.maxSendAttempts

theorem IsSame.trans {m m' m'' : Message} (h : IsSame m m') (h' : IsSame m' m'') :
    IsSame m m'' := by
  constructor
  · exact h'.id.trans h.id
  · exact h'.owner.trans h.owner
  · exact h'.userId.trans h.userId
  · exact h'.contact.trans h.contact
  · exact h'.content.trans h.content
  · exact h'.type.trans h.type
  · exact h'.sim.trans h.sim
  · exact h'.requestReceivedAt.trans h.requestReceivedAt
  · exact h'.createdAt.trans h.createdAt
  · exact h'.receivedAt.trans h.receivedAt
  · exact h'.maxSendAttempts.trans h.maxSendAttempts

theorem hear_concat (m : Message) (tidings : List (Instant × Tiding)) (x : Instant × Tiding) :
    m.hear (tidings ++ [x]) = (m.hear tidings).apply x.1 x.2.transition := by
  rw [hear, run, List.map_append, List.foldl_append]
  rfl

section Step

variable {t : Transition} (hlife : t.isLifecycle) (m : Message) (now : Instant)
include hlife

theorem timeOf_apply (k : Transition.Kind) :
    (m.apply now t).timeOf k = if t.kind? = some k then t.time? else m.timeOf k := by
  cases t with
  | scheduledFor time | limitAttempts count => cases hlife
  | _ => cases k <;> rfl

theorem failureReason_apply :
    (m.apply now t).failureReason =
      if t.kind? = some .failed then t.reason? else m.failureReason := by
  cases t with
  | scheduledFor time | limitAttempts count => cases hlife
  | _ => rfl

theorem canBePolled_apply :
    (m.apply now t).canBePolled = true ↔ m.canBePolled = true ∨ t.kind? = some .expired := by
  cases t with
  | scheduledFor time | limitAttempts count => cases hlife
  | _ => simp [apply, touch, Transition.kind?]

theorem isSame_apply : IsSame m (m.apply now t) := by
  cases t with
  | scheduledFor time | limitAttempts count => cases hlife
  | _ => constructor <;> rfl

theorem status_apply_of_none (hnone : t.status? = none) :
    (m.apply now t).status =
      if (m.status = .pending ∨ m.status = .expired) ∧ t.kind? = some .notificationScheduled then
        .scheduled
      else m.status := by
  cases t with
  | scheduledFor time | limitAttempts count => cases hlife
  | countAttempt => simp [apply, Transition.kind?]
  | notificationScheduled time => simp only [apply, touch, Transition.kind?, and_true, or_comm]
  | _ => cases hnone

end Step

section Run

variable (m : Message) {tidings : List (Instant × Tiding)}

/-- A field that only one kind of transition sets holds what the last of this kind came with. -/
theorem field_hear {β : Type} (field : Message → β) {argument : Transition → β}
    {k : Transition.Kind}
    (hstep : ∀ (t : Transition), t.isLifecycle → ∀ m now, field (m.apply now t) =
      if t.kind? = some k then argument t else field m)
    (hlife : ∀ x ∈ tidings, x.2.transition.isLifecycle) :
    field (m.hear tidings) = (lastOf? k (transitions tidings)).elim (field m) argument := by
  induction tidings using List.reverseRecOn with
  | nil => rfl
  | append_singleton tidings x ih =>
      obtain ⟨hbefore, hx⟩ := List.forall_mem_append.mp hlife
      rw [hear_concat, hstep _ (hx x List.mem_cons_self), ih hbefore, transitions_concat,
        lastOf?_concat]
      split <;> rfl

theorem canBePolled_hear (hlife : ∀ x ∈ tidings, x.2.transition.isLifecycle) :
    (m.hear tidings).canBePolled = true ↔
      m.canBePolled = true ∨ ∃ t ∈ transitions tidings, t.kind? = some .expired := by
  induction tidings using List.reverseRecOn with
  | nil => simp [hear, run, transitions]
  | append_singleton tidings x ih =>
      obtain ⟨hbefore, hx⟩ := List.forall_mem_append.mp hlife
      rw [hear_concat, canBePolled_apply (hx x List.mem_cons_self), ih hbefore, transitions_concat]
      simp only [List.mem_append, List.mem_singleton, or_and_right, exists_or, exists_eq_left,
        or_assoc]

theorem isSame_hear (hlife : ∀ x ∈ tidings, x.2.transition.isLifecycle) :
    IsSame m (m.hear tidings) := by
  induction tidings using List.reverseRecOn with
  | nil => constructor <;> rfl
  | append_singleton tidings x ih =>
      obtain ⟨hbefore, hx⟩ := List.forall_mem_append.mp hlife
      rw [hear_concat]
      exact (ih hbefore).trans (isSame_apply (hx x List.mem_cons_self) _ _)

theorem lastingStatus_concat_of_some {t : Transition} {s : MessageStatus}
    (h : t.status? = some s) (transitions : List Transition) :
    m.lastingStatus (transitions ++ [t]) = s := by
  have hsince : (transitions ++ [t]).rtakeWhile (fun t => t.status?.isNone) = [] := by
    rw [List.rtakeWhile_concat_neg]
    simp [h]
  simp [lastingStatus, hsince, h]

theorem lastingStatus_concat_of_none {t : Transition} (h : t.status? = none)
    (transitions : List Transition) :
    m.lastingStatus (transitions ++ [t]) =
      if (m.lastingStatus transitions = .pending ∨ m.lastingStatus transitions = .expired) ∧
        t.kind? = some .notificationScheduled then .scheduled
      else m.lastingStatus transitions := by
  have hlast : (transitions ++ [t]).filterMap Transition.status? =
      transitions.filterMap Transition.status? := by
    simp [h]
  have hsince : (transitions ++ [t]).rtakeWhile (fun t => t.status?.isNone) =
      transitions.rtakeWhile (fun t => t.status?.isNone) ++ [t] := by
    rw [List.rtakeWhile_concat_pos]
    simp [h]
  simp only [lastingStatus, hlast, hsince, List.mem_append, List.mem_singleton, or_and_right,
    exists_or, exists_eq_left]
  grind

theorem status_hear_eq (hlife : ∀ x ∈ tidings, x.2.transition.isLifecycle) :
    (m.hear tidings).status = m.lastingStatus (transitions tidings) := by
  induction tidings using List.reverseRecOn with
  | nil => simp [hear, run, transitions, lastingStatus]
  | append_singleton tidings x ih =>
      obtain ⟨hbefore, hx⟩ := List.forall_mem_append.mp hlife
      rw [hear_concat, transitions_concat]
      cases hset : x.2.transition.status? with
      | some s =>
          obtain ⟨k, hkind, hstatus⟩ := Option.bind_eq_some_iff.mp hset
          rw [lastingStatus_concat_of_some m hset, status_apply hkind hstatus]
      | none =>
          rw [lastingStatus_concat_of_none m hset, ← ih hbefore,
            status_apply_of_none (hx x List.mem_cons_self) _ _ hset]

end Run

/-- What a message is after any run of its life: its status is the one that lasts, every kind of
transition has left what the last of its kind came with, a failure its reason too, the phone may
poll for it if it ever expired, and the rest is as the message was made. -/
theorem fields_follow_transitions (m : Message) (tidings : List (Instant × Tiding))
    (hlife : ∀ x ∈ tidings, x.2.transition.isLifecycle) :
    (m.hear tidings).status = m.lastingStatus (transitions tidings) ∧
      (∀ k, (m.hear tidings).timeOf k =
        (lastOf? k (transitions tidings)).elim (m.timeOf k) Transition.time?) ∧
      (m.hear tidings).failureReason =
        (lastOf? .failed (transitions tidings)).elim m.failureReason Transition.reason? ∧
      ((m.hear tidings).canBePolled = true ↔
        m.canBePolled = true ∨ ∃ t ∈ transitions tidings, t.kind? = some .expired) ∧
      IsSame m (m.hear tidings) := by
  refine ⟨status_hear_eq m hlife, ?_, ?_, canBePolled_hear m hlife, isSame_hear m hlife⟩
  · intro k
    apply field_hear m (fun m => m.timeOf k) _ hlife
    intro t ht m now
    exact timeOf_apply ht m now k
  · apply field_hear m (fun m => m.failureReason) _ hlife
    intro t ht m now
    exact failureReason_apply ht m now

theorem fields_follow_transitions_expired :
    let t (second : Fin 86400) : Instant :=
      ⟨⟨2024, 6, 5, by decide, by decide⟩, second, 0, second.isLt, by decide⟩
    let m :=
      outbound ⟨List.replicate 16 0, rfl⟩ "+18005550199" "+18005550100" "hello" "user-1" (t 0)
    let first : List (Instant × Tiding) :=
      [(t 10, .made .countAttempt), (t 11, .made (.sendAttempt (t 1))),
        (t 12, .reported .sent (t 9) none), (t 13, .made (.notificationScheduled (t 2)))]
    let second : List (Instant × Tiding) :=
      [(t 14, .made (.expired (t 8))), (t 15, .made (.failed (t 7) "NO_SIGNAL")),
        (t 16, .reported .failed (t 3) (some " BUSY ")), (t 17, .made (.expired (t 6))),
        (t 18, .made .countAttempt), (t 19, .made (.notificationScheduled (t 5))),
        (t 20, .made (.notificationScheduled (t 4)))]
    (∀ x ∈ first ++ second, x.2.transition.isLifecycle) ∧
      (m.hear first).status = .sent ∧ (m.hear (first ++ second)).status = .scheduled ∧
      (m.hear (first ++ second)).lastAttemptedAt = some (t 1) ∧
      (m.hear (first ++ second)).sentAt = some (t 9) ∧
      (m.hear (first ++ second)).deliveredAt = none ∧
      (m.hear (first ++ second)).failedAt = some (t 3) ∧
      (m.hear (first ++ second)).expiredAt = some (t 6) ∧
      (m.hear (first ++ second)).notificationScheduledAt = some (t 4) ∧
      (m.hear (first ++ second)).failureReason = some "BUSY" ∧
      (m.hear (first ++ second)).canBePolled = true ∧ IsSame m (m.hear (first ++ second)) := by
  intro t m first second
  have hlife : ∀ x ∈ first ++ second, x.2.transition.isLifecycle := by decide +kernel
  obtain ⟨hsent, -⟩ := fields_follow_transitions m first
    fun x hx => hlife x (List.mem_append_left second hx)
  obtain ⟨hstatus, htimes, hreason, hpolled, hsame⟩ :=
    fields_follow_transitions m (first ++ second) hlife
  refine ⟨hlife, ?_, ?_, ?_, ?_, ?_, ?_, ?_, ?_, ?_, ?_, hsame⟩
  · rw [hsent]
    decide +kernel
  · rw [hstatus]
    decide +kernel
  · exact (htimes .sendAttempt).trans (by decide +kernel)
  · exact (htimes .sent).trans (by decide +kernel)
  · exact (htimes .delivered).trans (by decide +kernel)
  · exact (htimes .failed).trans (by decide +kernel)
  · exact (htimes .expired).trans (by decide +kernel)
  · exact (htimes .notificationScheduled).trans (by decide +kernel)
  · rw [hreason]
    decide +kernel
  · rw [hpolled]
    decide +kernel

end Message

end SmsGateway
