import Mathlib.Data.List.Dedup
import SmsGateway.Message.Lifecycle
import SmsGateway.Proofs.Time.Order

/-!
Reports that come late, twice or out of order. As long as every kind of transition is told with one
time and one reason, any two transitions of a message can be made in either order, and making one
again changes nothing; so a message ends up the same whichever order it hears of them in, and
however often. Only the status and the time of the last change tell what came last.
-/

namespace SmsGateway

open SmsGateway.Time

/-- The kinds of transitions that are told with a time of their own. -/
inductive Transition.Kind where
  | sendAttempt
  | sent
  | delivered
  | failed
  | expired
  | notificationScheduled
  deriving DecidableEq

namespace Transition

def kind? : Transition → Option Kind
  | .sendAttempt _ => some .sendAttempt
  | .sent _ => some .sent
  | .delivered _ => some .delivered
  | .failed _ _ => some .failed
  | .expired _ => some .expired
  | .notificationScheduled _ => some .notificationScheduled
  | .scheduledFor _ | .countAttempt | .limitAttempts _ => none

/-- The status that a kind of transition sets, whatever it was before. -/
def Kind.status? : Kind → Option MessageStatus
  | .sendAttempt => some .sending
  | .sent => some .sent
  | .delivered => some .delivered
  | .failed => some .failed
  | .expired => some .expired
  | .notificationScheduled => none

end Transition

/-- How a message hears of a transition: it is made, or the phone reports it. -/
inductive Tiding where
  | made (t : Transition)
  | reported (name : ReportName) (time : Instant) (reason : Option String)

/-- The transition that is told; a reported failure has its reason in normal form. -/
def Tiding.transition : Tiding → Transition
  | made t => t
  | reported name time reason => .ofReport name time reason

section Fold

variable {α β : Type} {f : β → α → β} {xs ys : List α}

theorem foldl_absorb (hcomm : ∀ a ∈ xs, ∀ b ∈ xs, ∀ z, f (f z a) b = f (f z b) a)
    (hidem : ∀ a ∈ xs, ∀ z, f (f z a) a = f z a) {a : α} (ha : a ∈ xs) (z : β) :
    xs.foldl f (f z a) = xs.foldl f z := by
  induction xs generalizing z with
  | nil => simp at ha
  | cons x xs ih =>
      rw [List.foldl_cons, List.foldl_cons]
      rcases List.mem_cons.mp ha with rfl | hmem
      · rw [hidem a ha]
      · rw [hcomm a ha x List.mem_cons_self]
        apply ih _ _ hmem
        · intro b hb c hc
          exact hcomm b (List.mem_cons_of_mem x hb) c (List.mem_cons_of_mem x hc)
        · intro b hb
          exact hidem b (List.mem_cons_of_mem x hb)

theorem foldl_dedup [DecidableEq α]
    (hcomm : ∀ a ∈ xs, ∀ b ∈ xs, ∀ z, f (f z a) b = f (f z b) a)
    (hidem : ∀ a ∈ xs, ∀ z, f (f z a) a = f z a) (z : β) :
    xs.dedup.foldl f z = xs.foldl f z := by
  induction xs generalizing z with
  | nil => rfl
  | cons x xs ih =>
      have hcomm' : ∀ a ∈ xs, ∀ b ∈ xs, ∀ z, f (f z a) b = f (f z b) a := by
        intro a ha b hb
        exact hcomm a (List.mem_cons_of_mem x ha) b (List.mem_cons_of_mem x hb)
      have hidem' : ∀ a ∈ xs, ∀ z, f (f z a) a = f z a := by
        intro a ha
        exact hidem a (List.mem_cons_of_mem x ha)
      by_cases hx : x ∈ xs
      · rw [List.dedup_cons_of_mem hx, ih hcomm' hidem', List.foldl_cons,
          foldl_absorb hcomm' hidem' hx]
      · rw [List.dedup_cons_of_notMem hx, List.foldl_cons, List.foldl_cons, ih hcomm' hidem']

/-- Steps that commute and that can be repeated lead to the same end, in whatever order they are
taken and however often. -/
theorem foldl_eq_of_mem_iff [DecidableEq α]
    (hcomm : ∀ a ∈ xs, ∀ b ∈ xs, ∀ z, f (f z a) b = f (f z b) a)
    (hidem : ∀ a ∈ xs, ∀ z, f (f z a) a = f z a) (hsame : ∀ a, a ∈ xs ↔ a ∈ ys) (z : β) :
    xs.foldl f z = ys.foldl f z := by
  have hperm : xs.dedup.Perm ys.dedup := by
    apply (List.perm_ext_iff_of_nodup xs.nodup_dedup ys.nodup_dedup).mpr
    intro a
    rw [List.mem_dedup, List.mem_dedup]
    exact hsame a
  calc xs.foldl f z = xs.dedup.foldl f z := (foldl_dedup hcomm hidem z).symm
    _ = ys.dedup.foldl f z := by
      apply hperm.foldl_eq'
      intro a ha b hb
      exact hcomm a (List.mem_dedup.mp ha) b (List.mem_dedup.mp hb)
    _ = ys.foldl f z := by
      apply foldl_dedup
      · intro a ha b hb
        exact hcomm a ((hsame a).mpr ha) b ((hsame b).mpr hb)
      · intro a ha
        exact hidem a ((hsame a).mpr ha)

end Fold

namespace Message

/-- Makes the transitions that a message hears of, each at its own wall-clock time. -/
def hear (m : Message) (tidings : List (Instant × Tiding)) : Message :=
  m.run (tidings.map fun x => (x.1, x.2.transition))

/-- A message without what the last transition alone decides. -/
def settled (m : Message) : Message :=
  { m with status := .pending, updatedAt := m.createdAt }

/-- Makes a transition, but for what the last one alone decides. -/
def settle (m : Message) (t : Transition) : Message :=
  (m.apply m.createdAt t).settled

theorem settled_apply (m : Message) (now : Instant) (t : Transition) :
    (m.apply now t).settled = m.settled.settle t := by
  cases t <;> rfl

theorem settled_run (m : Message) (steps : List (Instant × Transition)) :
    (m.run steps).settled = (steps.map Prod.snd).foldl settle m.settled := by
  induction steps generalizing m with
  | nil => rfl
  | cons step steps ih =>
      change ((m.apply step.1 step.2).run steps).settled = _
      rw [ih, settled_apply]
      rfl

/-- Messages that settle alike differ in their status and in the time of the last change only. -/
theorem eq_of_settled_eq {m m' : Message} (h : m.settled = m'.settled) :
    m = { m' with status := m.status, updatedAt := m.updatedAt } := by
  cases m
  cases m'
  simp only [settled, mk.injEq] at h ⊢
  tauto

theorem later_right_comm (t a b : Instant) : (t.later a).later b = (t.later b).later a := by
  rw [Instant.later_assoc, Instant.later_comm a, Instant.later_assoc]

theorem settle_sent_delivered (m : Message) (time time' : Instant) :
    (m.settle (.sent time)).settle (.delivered time') =
      (m.settle (.delivered time')).settle (.sent time) := by
  simp only [settle, apply, touch, settled, sinceRequest, Option.getD_some,
    later_right_comm _ time time']

theorem settle_comm {t t' : Transition} (ht : t.kind?.isSome) (ht' : t'.kind?.isSome)
    (hne : t.kind? ≠ t'.kind?) (m : Message) :
    (m.settle t).settle t' = (m.settle t').settle t := by
  cases t <;> cases t' <;> try contradiction
  case sent.delivered time time' => exact settle_sent_delivered m time time'
  case delivered.sent time time' => exact (settle_sent_delivered m time' time).symm
  all_goals
    simp only [settle, apply, touch, settled, sinceRequest, later_right_comm m.orderTimestamp]

theorem settle_settle {t : Transition} (ht : t.kind?.isSome) (m : Message) :
    (m.settle t).settle t = m.settle t := by
  cases t <;> try contradiction
  all_goals
    simp only [settle, apply, touch, settled, sinceRequest, Option.getD_some,
      Instant.later_assoc, Instant.later_self]

theorem status_apply {t : Transition} {k : Transition.Kind} {s : MessageStatus}
    (hkind : t.kind? = some k) (hstatus : k.status? = some s) (m : Message) (now : Instant) :
    (m.apply now t).status = s := by
  cases t <;> cases hkind
  case notificationScheduled => simp [Transition.Kind.status?] at hstatus
  all_goals exact Option.some.inj hstatus

theorem status_hear {tidings : List (Instant × Tiding)} {k : Transition.Kind} {s : MessageStatus}
    (hlast : tidings.getLast?.bind (fun x => x.2.transition.kind?) = some k)
    (hstatus : k.status? = some s) (m : Message) : (m.hear tidings).status = s := by
  obtain ⟨last, hlast, hkind⟩ := Option.bind_eq_some_iff.mp hlast
  obtain ⟨earlier, rfl⟩ := List.getLast?_eq_some_iff.mp hlast
  rw [hear, run, List.map_append, List.foldl_append]
  exact status_apply hkind hstatus _ _

/-- Two accounts of what happened to a message, in any order and with any repetitions, lead to the
same message, as far as they tell of the same transitions and of each kind with one time and one
reason. Its status is the same too if both end alike, with anything but a notification. -/
theorem hear_converges (m : Message) (first second : List (Instant × Tiding))
    (htimed : ∀ x ∈ first, x.2.transition.kind?.isSome)
    (hsingle : ∀ x ∈ first, ∀ y ∈ first, x.2.transition.kind? = y.2.transition.kind? →
      x.2.transition = y.2.transition)
    (hsame : ∀ t, (∃ x ∈ first, x.2.transition = t) ↔ ∃ y ∈ second, y.2.transition = t) :
    m.hear first = { m.hear second with
        status := (m.hear first).status
        updatedAt := (m.hear first).updatedAt } ∧
      ∀ k, first.getLast?.bind (fun x => x.2.transition.kind?) = some k →
        second.getLast?.bind (fun x => x.2.transition.kind?) = some k →
          k ≠ .notificationScheduled → (m.hear first).status = (m.hear second).status := by
  constructor
  · apply eq_of_settled_eq
    rw [hear, hear, settled_run, settled_run]
    have hmem : ∀ (tidings : List (Instant × Tiding)) t,
        t ∈ (tidings.map fun x => (x.1, x.2.transition)).map Prod.snd ↔
          ∃ x ∈ tidings, x.2.transition = t := by
      intro tidings t
      rw [List.map_map, List.mem_map]
      rfl
    apply foldl_eq_of_mem_iff
    · rintro t ht t' ht' z
      obtain ⟨x, hx, rfl⟩ := (hmem first t).mp ht
      obtain ⟨y, hy, rfl⟩ := (hmem first t').mp ht'
      by_cases hkind : x.2.transition.kind? = y.2.transition.kind?
      · rw [hsingle x hx y hy hkind]
      · exact settle_comm (htimed x hx) (htimed y hy) hkind z
    · rintro t ht z
      obtain ⟨x, hx, rfl⟩ := (hmem first t).mp ht
      exact settle_settle (htimed x hx) z
    · intro t
      rw [hmem, hmem]
      exact hsame t
  · intro k hfirst hsecond hk
    obtain ⟨s, hs⟩ : ∃ s, k.status? = some s := by
      cases k
      case notificationScheduled => exact absurd rfl hk
      all_goals exact ⟨_, rfl⟩
    rw [status_hear hfirst hs, status_hear hsecond hs]

theorem hear_converges_reordered :
    let t (second : Fin 86400) : Instant :=
      ⟨⟨2024, 6, 5, by decide, by decide⟩, second, 0, second.isLt, by decide⟩
    let m := outbound ⟨List.replicate 16 0, rfl⟩ "+18005550199" "+18005550100" "hello" "user-1" (t 0)
    let first : List (Instant × Tiding) :=
      [(t 10, .made (.sendAttempt (t 1))), (t 11, .reported .sent (t 4) none),
        (t 12, .reported .delivered (t 9) none), (t 13, .reported .failed (t 6) (some "  "))]
    let second : List (Instant × Tiding) :=
      [(t 20, .reported .delivered (t 9) none), (t 21, .made (.failed (t 6) unknownReason)),
        (t 22, .reported .sent (t 4) none), (t 23, .made (.sendAttempt (t 1))),
        (t 24, .reported .delivered (t 9) none), (t 25, .reported .failed (t 6) none)]
    (∀ x ∈ first, x.2.transition.kind?.isSome) ∧
      (∀ x ∈ first, ∀ y ∈ first, x.2.transition.kind? = y.2.transition.kind? →
        x.2.transition = y.2.transition) ∧
      (∀ t, (∃ x ∈ first, x.2.transition = t) ↔ ∃ y ∈ second, y.2.transition = t) ∧
      m.hear first = { m.hear second with
        status := (m.hear first).status
        updatedAt := (m.hear first).updatedAt } ∧
      (m.hear first).status = (m.hear second).status := by
  intro t m first second
  have htimed : ∀ x ∈ first, x.2.transition.kind?.isSome := by decide +kernel
  have hsingle : ∀ x ∈ first, ∀ y ∈ first, x.2.transition.kind? = y.2.transition.kind? →
      x.2.transition = y.2.transition := by decide +kernel
  have hreason : normalReason (some "  ") = unknownReason := by decide +kernel
  have hsame : ∀ t, (∃ x ∈ first, x.2.transition = t) ↔ ∃ y ∈ second, y.2.transition = t := by
    intro t'
    simp only [first, second, List.mem_cons, List.not_mem_nil, or_false, exists_eq_or_imp,
      exists_eq_left, Tiding.transition, Transition.ofReport, hreason]
    rw [show normalReason none = unknownReason from rfl]
    tauto
  obtain ⟨hfields, hstatus⟩ := hear_converges m first second htimed hsingle hsame
  exact ⟨htimed, hsingle, hsame, hfields, hstatus .failed rfl rfl (by decide)⟩

end Message

end SmsGateway
