import SmsGateway.Proofs.Time.Elapsed

/-!
Leap seconds between two instants. The order of instants puts a leap second between the second that
it belongs to and the next one, but the time from one instant to another is a difference of clocks,
with a leap second only if one of the two names it and it lies between them within the day. So time
may run back for less than two seconds close to a leap second, and nowhere else.
-/

namespace SmsGateway.Time

namespace Instant

/-- Whole seconds up to an instant, leap seconds apart. -/
def clock (t : Instant) : Int :=
  t.date.dayNumber * daySeconds + t.second

/-- The second that is shown where a leap second is taken for the second after it. -/
def shown (t : Instant) : Int :=
  t.clock + (t.nano / secondNanos : Nat)

/-- The part of a second that has passed, in a leap second of that one. -/
def fraction (t : Instant) : Nat :=
  t.nano % secondNanos

theorem le_iff_clock {t t' : Instant} :
    t ≤ t' ↔ t.clock < t'.clock ∨ t.clock = t'.clock ∧ t.nano ≤ t'.nano := by
  have hnano : t.nano < 2000000000 := t.nano_lt
  have hnano' : t'.nano < 2000000000 := t'.nano_lt
  change t.clock * 2000000000 + t.nano ≤ t'.clock * 2000000000 + t'.nano ↔ _
  omega

theorem elapsed_eq_clock (finish start : Instant) :
    finish.elapsed start =
      (finish.clock - start.clock + leapAdjustment finish start) * secondNanos +
        ((finish.nano : Int) - start.nano) := by
  rw [elapsed, clock, clock]
  change ((finish.date.dayNumber - start.date.dayNumber) * 86400 +
    ((finish.second : Int) - start.second) + _) * 1000000000 + _ =
      (finish.date.dayNumber * 86400 + finish.second -
        (start.date.dayNumber * 86400 + start.second) + _) * 1000000000 + _
  omega

theorem isLeap_eq_false_iff {t : Instant} : t.isLeap = false ↔ t.nano < 1000000000 := by
  rw [isLeap, decide_eq_false_iff_not, Nat.not_le]
  rfl

theorem isLeap_eq_isLeap_iff {t t' : Instant} :
    t.isLeap = t'.isLeap ↔ (1000000000 ≤ t.nano ↔ 1000000000 ≤ t'.nano) := by
  rw [isLeap, isLeap, decide_eq_decide]
  rfl

theorem shown_cases (t : Instant) :
    t.shown = t.clock ∧ t.nano < 1000000000 ∨ t.shown = t.clock + 1 ∧ 1000000000 ≤ t.nano := by
  have hnano : t.nano < 2000000000 := t.nano_lt
  change t.clock + (t.nano / 1000000000 : Nat) = _ ∧ _ ∨
    t.clock + (t.nano / 1000000000 : Nat) = _ ∧ _
  omega

theorem leapAdjustment_cases (finish start : Instant) :
    leapAdjustment finish start = 1 ∧ start.second < finish.second ∧ 1000000000 ≤ start.nano ∨
      leapAdjustment finish start = -1 ∧ finish.second < start.second ∧ 1000000000 ≤ finish.nano ∨
      leapAdjustment finish start = 0 ∧
        (start.second < finish.second → start.nano < 1000000000) ∧
        (finish.second < start.second → finish.nano < 1000000000) := by
  have hfinish : finish.isLeap = true ↔ 1000000000 ≤ finish.nano := decide_eq_true_iff
  have hstart : start.isLeap = true ↔ 1000000000 ≤ start.nano := decide_eq_true_iff
  simp only [leapAdjustment, hfinish, hstart]
  repeat' split
  all_goals omega

/-- Two instants within one second, or within its leap second both, or with a later second for the
second one, even if what the first one shows is that after it. And where the start is within a leap
second, no midnight between them or a whole second more. -/
def ClearOfLeaps (start t t' : Instant) : Prop :=
  (t.clock = t'.clock ∧ t.isLeap = t'.isLeap ∨ t.shown < t'.clock) ∧
    (start.isLeap = false ∨ t.date = t'.date ∨ t.shown + 1 < t'.clock)

instance (start t t' : Instant) : Decidable (ClearOfLeaps start t t') :=
  inferInstanceAs (Decidable ((_ ∧ _ ∨ _) ∧ (_ ∨ _ ∨ _)))

theorem clock_bounds (t : Instant) :
    t.clock = t.date.dayNumber * 86400 + t.second ∧ t.second < 86400 ∧ t.nano < 2000000000 :=
  ⟨rfl, t.second_lt, t.nano_lt⟩

section Elapsed

variable {start t t' : Instant}

theorem elapsed_le_of_clear (h : t ≤ t') (hclear : ClearOfLeaps start t t') :
    t.elapsed start ≤ t'.elapsed start := by
  obtain ⟨hnear, hstart⟩ := hclear
  rw [isLeap_eq_isLeap_iff] at hnear
  rw [isLeap_eq_false_iff] at hstart
  have ht := clock_bounds t
  have ht' := clock_bounds t'
  have hcases := leapAdjustment_cases t start
  have hcases' := leapAdjustment_cases t' start
  rw [le_iff_clock] at h
  rw [elapsed_eq_clock, elapsed_eq_clock]
  change (_ - _ + _) * 1000000000 + _ ≤ (_ - _ + _) * 1000000000 + _
  obtain ⟨hsame, halike⟩ | hlater := hnear
  · have hadjust : leapAdjustment t start = leapAdjustment t' start := by omega
    omega
  -- a later second makes up for a leap second of `t'` that is taken off; past midnight that of the
  -- start is missing too
  · have hshown := shown_cases t
    obtain houtside | hdate | hnight := hstart
    · omega
    · have hday : t.date.dayNumber = t'.date.dayNumber := congrArg Date.dayNumber hdate
      omega
    · omega

theorem elapsed_lt_add (h : t ≤ t') (start : Instant) :
    t.elapsed start < t'.elapsed start + 2000000000 := by
  have ht := clock_bounds t
  have ht' := clock_bounds t'
  have hcases := leapAdjustment_cases t start
  have hcases' := leapAdjustment_cases t' start
  rw [le_iff_clock] at h
  rw [elapsed_eq_clock, elapsed_eq_clock]
  change (_ - _ + _) * 1000000000 + _ < (_ - _ + _) * 1000000000 + _ + _
  omega

/-- The leap second at the end of a day is not counted from the next day on, so the first second of
that day seems to start when the leap second did. -/
theorem elapsed_neg_iff (h : start ≤ t) :
    t.elapsed start < 0 ↔
      start.isLeap = true ∧ t.clock = start.clock + 1 ∧ t.date ≠ start.date ∧
        t.fraction < start.fraction := by
  have hleap : start.isLeap = true ↔ 1000000000 ≤ start.nano := decide_eq_true_iff
  have hdate : t.date ≠ start.date ↔ t.date.dayNumber ≠ start.date.dayNumber :=
    not_congr ⟨congrArg _, Date.dayNumber_injective⟩
  have ht := clock_bounds t
  have hstart := clock_bounds start
  have hcases := leapAdjustment_cases t start
  rw [le_iff_clock] at h
  rw [elapsed_eq_clock, hleap, hdate]
  change (_ - _ + _) * 1000000000 + _ < 0 ↔
    _ ∧ _ ∧ _ ∧ t.nano % 1000000000 < start.nano % 1000000000
  omega

end Elapsed

end Instant

end SmsGateway.Time
