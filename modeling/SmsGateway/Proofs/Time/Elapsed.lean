import SmsGateway.Proofs.Time.Order

namespace SmsGateway.Time

namespace Date

theorem dayNumber_of_ofParts? {year : Int} {month day : Nat} {d : Date}
    (h : ofParts? year month day = some d) :
    d.dayNumber = daysBeforeYear year + daysBefore year month + day := by
  unfold ofParts? at h
  split at h
  · split at h
    · obtain rfl := Option.some.inj h
      rfl
    · simp at h
  · simp at h

theorem dayNumber_next? {d d' : Date} (h : d.next? = some d') :
    d'.dayNumber = d.dayNumber + 1 := by
  obtain ⟨-, hday⟩ := d.day_mem
  unfold next? at h
  split at h
  · rw [dayNumber_of_ofParts? h, dayNumber]
    omega
  · next hlast =>
      have hfull : d.day = daysInMonth d.year d.month := by omega
      split at h
      · rw [dayNumber_of_ofParts? h, dayNumber, daysBefore, ← hfull]
        omega
      · have hmonth : d.month = 12 := by
          have := month_le d
          omega
        have hyear := daysBefore_thirteen d.year
        rw [daysBefore, ← hmonth, ← hfull] at hyear
        have hfirst : daysBefore (d.year + 1) 1 = 0 := rfl
        rw [dayNumber_of_ofParts? h, dayNumber, hfirst]
        omega

theorem dayNumber_bounds (d : Date) : -100000000 < d.dayNumber ∧ d.dayNumber < 100000000 := by
  obtain ⟨hfirst, hlast⟩ := d.year_mem
  have hstart : daysBeforeYear firstYear ≤ daysBeforeYear d.year := daysBeforeYear_mono hfirst
  have hend : daysBeforeYear (d.year + 1) ≤ daysBeforeYear (lastYear + 1) :=
    daysBeforeYear_mono (by omega)
  have hyear := daysBefore_thirteen d.year
  have hday : daysBefore d.year d.month + d.day ≤ daysBefore d.year 13 :=
    daysBefore_add_day_le d (Nat.lt_succ_of_le (month_le d))
  have hnext : daysBeforeYear d.year ≤ daysBeforeYear (d.year + 1) := daysBeforeYear_mono (by omega)
  rw [show daysBeforeYear firstYear = -95746130 by decide] at hstart
  rw [show daysBeforeYear (lastYear + 1) = 95745399 by decide] at hend
  rw [dayNumber]
  omega

end Date

namespace Instant

/-- The nanoseconds up to an instant, leap seconds apart. -/
def ticks (t : Instant) : Int :=
  (t.date.dayNumber * daySeconds + t.second) * secondNanos + t.nano

theorem leapAdjustment_of_not_isLeap {finish start : Instant} (hfinish : finish.isLeap = false)
    (hstart : start.isLeap = false) : leapAdjustment finish start = 0 := by
  simp [leapAdjustment, hfinish, hstart]

theorem elapsed_eq_sub {finish start : Instant} (hfinish : finish.isLeap = false)
    (hstart : start.isLeap = false) : finish.elapsed start = finish.ticks - start.ticks := by
  rw [elapsed, leapAdjustment_of_not_isLeap hfinish hstart, ticks, ticks]
  change ((finish.date.dayNumber - start.date.dayNumber) * 86400 +
    ((finish.second : Int) - start.second) + 0) * 1000000000 + ((finish.nano : Int) - start.nano) =
      (finish.date.dayNumber * 86400 + finish.second) * 1000000000 + finish.nano -
        ((start.date.dayNumber * 86400 + start.second) * 1000000000 + start.nano)
  omega

theorem elapsed_bounds (finish start : Instant) :
    -9223372036854775807 * 1000000 ≤ finish.elapsed start ∧
      finish.elapsed start ≤ 9223372036854775807 * 1000000 := by
  have hadjust : -1 ≤ leapAdjustment finish start ∧ leapAdjustment finish start ≤ 1 := by
    unfold leapAdjustment
    repeat' split
    all_goals decide
  obtain ⟨hlow, hhigh⟩ := finish.date.dayNumber_bounds
  obtain ⟨hlow', hhigh'⟩ := start.date.dayNumber_bounds
  have hsecond := finish.second_lt
  have hsecond' := start.second_lt
  have hnano := finish.nano_lt
  have hnano' := start.nano_lt
  change finish.second < 86400 at hsecond
  change start.second < 86400 at hsecond'
  change finish.nano < 2000000000 at hnano
  change start.nano < 2000000000 at hnano'
  rw [elapsed]
  change _ ≤ ((finish.date.dayNumber - start.date.dayNumber) * 86400 + _ + _) * 1000000000 + _ ∧
    ((finish.date.dayNumber - start.date.dayNumber) * 86400 + _ + _) * 1000000000 + _ ≤ _
  omega

end Instant

/-- A number in 64 bits, if it has one. -/
def checked64 (n : Int) : Option Int64 :=
  if Int64.minValue.toInt ≤ n ∧ n ≤ Int64.maxValue.toInt then some (Int64.ofInt n) else none

/-- Nanoseconds in 64 bits: the whole seconds are multiplied and the rest is added, and either step
is given up when it leaves the 64 bits. -/
def nanos64? (n : Int) : Option Int64 := do
  let whole ← checked64 (n.tdiv secondNanos * secondNanos)
  checked64 (whole.toInt + n.tmod secondNanos)

theorem checked64_eq_none_iff {n : Int} :
    checked64 n = none ↔ n < Int64.minValue.toInt ∨ Int64.maxValue.toInt < n := by
  rw [checked64, ite_eq_right_iff]
  simp only [reduceCtorEq, imp_false]
  omega

theorem toInt_of_checked64 {n : Int} {x : Int64} (h : checked64 n = some x) : x.toInt = n := by
  unfold checked64 at h
  split at h
  · next hrange =>
      obtain rfl := Option.some.inj h
      rw [Int64.toInt_minValue, Int64.toInt_maxValue] at hrange
      exact Int64.toInt_ofInt_of_le hrange.1 (by omega)
  · simp at h

/-- Neither step is given up too early, as the rest has the sign of the whole. -/
theorem nanos64?_eq (n : Int) : nanos64? n = checked64 n := by
  have hsum : n.tdiv secondNanos * secondNanos + n.tmod secondNanos = n := by
    rw [Int.mul_comm]
    exact Int.mul_tdiv_add_tmod n secondNanos
  have hpositive : 0 ≤ n → 0 ≤ n.tmod secondNanos := Int.tmod_nonneg _
  have hnegative : n ≤ 0 → n.tmod secondNanos ≤ 0 := by
    intro hn
    have hneg : 0 ≤ (-n).tmod secondNanos := Int.tmod_nonneg _ (Int.neg_nonneg_of_nonpos hn)
    rw [Int.neg_tmod] at hneg
    omega
  have hlow : -1000000000 < n.tmod secondNanos := Int.lt_tmod_of_pos n (by decide)
  have hhigh : n.tmod secondNanos < 1000000000 := Int.tmod_lt_of_pos n (by decide)
  unfold nanos64?
  rcases hwhole : checked64 (n.tdiv secondNanos * secondNanos) with _ | whole
  · have hbeyond := checked64_eq_none_iff.mp hwhole
    symm
    rw [Option.bind_eq_bind, Option.bind_none, checked64_eq_none_iff]
    rw [Int64.toInt_minValue, Int64.toInt_maxValue] at hbeyond ⊢
    omega
  · rw [Option.bind_eq_bind, Option.bind_some, toInt_of_checked64 hwhole, hsum]

end SmsGateway.Time
