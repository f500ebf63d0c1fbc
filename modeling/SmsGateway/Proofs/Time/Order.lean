import Mathlib.Data.Int.Order.Basic
import Mathlib.Order.Lattice
import SmsGateway.Proofs.Time.RoundTrip

namespace SmsGateway.Time

namespace Date

theorem daysBefore_mono (year : Int) {month month' : Nat} (h : month ≤ month') :
    daysBefore year month ≤ daysBefore year month' := by
  induction h with
  | refl => exact Nat.le_refl _
  | step h ih => exact Nat.le_trans ih (Nat.le_add_right _ _)

theorem daysBefore_thirteen (year : Int) :
    (daysBefore year 13 : Int) = daysBeforeYear (year + 1) - daysBeforeYear year := by
  simp only [daysBefore, daysInMonth, daysBeforeYear, isLeapYear, Bool.and_eq_true, Bool.or_eq_true,
    beq_iff_eq, bne_iff_ne]
  split <;> omega

theorem daysBeforeYear_mono {year year' : Int} (h : year ≤ year') :
    daysBeforeYear year ≤ daysBeforeYear year' := by
  simp only [daysBeforeYear]
  omega

theorem daysBefore_add_day_le (d : Date) {month : Nat} (h : d.month < month) :
    daysBefore d.year d.month + d.day ≤ daysBefore d.year month := by
  have hnext : daysBefore d.year (d.month + 1) ≤ daysBefore d.year month :=
    daysBefore_mono d.year h
  have hday := d.day_mem.2
  rw [daysBefore] at hnext
  omega

theorem dayNumber_lt_of_year_lt {a b : Date} (h : a.year < b.year) : a.dayNumber < b.dayNumber := by
  have hend : daysBefore a.year a.month + a.day ≤ daysBefore a.year 13 :=
    daysBefore_add_day_le a (Nat.lt_succ_of_le (month_le a))
  have hfull := daysBefore_thirteen a.year
  have hyears : daysBeforeYear (a.year + 1) ≤ daysBeforeYear b.year := daysBeforeYear_mono h
  have hday := b.day_mem.1
  simp only [dayNumber]
  omega

theorem dayNumber_lt_of_month_lt {a b : Date} (hyear : a.year = b.year) (h : a.month < b.month) :
    a.dayNumber < b.dayNumber := by
  have hend : daysBefore a.year a.month + a.day ≤ daysBefore a.year b.month :=
    daysBefore_add_day_le a h
  have hday := b.day_mem.1
  simp only [dayNumber, hyear] at *
  omega

theorem dayNumber_injective {a b : Date} (h : a.dayNumber = b.dayNumber) : a = b := by
  have hyear : a.year = b.year := by
    rcases Int.lt_trichotomy a.year b.year with hlt | heq | hlt
    · exact absurd h (Int.ne_of_lt (dayNumber_lt_of_year_lt hlt))
    · exact heq
    · exact absurd h.symm (Int.ne_of_lt (dayNumber_lt_of_year_lt hlt))
  have hmonth : a.month = b.month := by
    rcases Nat.lt_trichotomy a.month b.month with hlt | heq | hlt
    · exact absurd h (Int.ne_of_lt (dayNumber_lt_of_month_lt hyear hlt))
    · exact heq
    · exact absurd h.symm (Int.ne_of_lt (dayNumber_lt_of_month_lt hyear.symm hlt))
  have hday : a.day = b.day := by
    simp only [dayNumber, hyear, hmonth] at h
    omega
  cases a
  cases b
  simp_all

end Date

namespace Instant

theorem rank_injective {a b : Instant} (h : a.rank = b.rank) : a = b := by
  obtain ⟨date, second, nano, hsecond, hnano⟩ := a
  obtain ⟨date', second', nano', hsecond', hnano'⟩ := b
  change second < 86400 at hsecond
  change second' < 86400 at hsecond'
  change nano < 2000000000 at hnano
  change nano' < 2000000000 at hnano'
  change (date.dayNumber * 86400 + second) * 2000000000 + nano =
    (date'.dayNumber * 86400 + second') * 2000000000 + nano' at h
  obtain rfl : date = date' := Date.dayNumber_injective (by omega)
  obtain rfl : second = second' := by omega
  obtain rfl : nano = nano' := by omega
  rfl

theorem rank_later (a b : Instant) :
    (a.later b).rank = if a.rank < b.rank then b.rank else a.rank := by
  rw [later]
  exact apply_ite rank _ _ _

theorem later_comm (a b : Instant) : a.later b = b.later a := by
  apply rank_injective
  rw [rank_later, rank_later]
  split <;> split <;> omega

theorem later_assoc (a b c : Instant) : (a.later b).later c = a.later (b.later c) := by
  apply rank_injective
  simp only [rank_later]
  repeat' split
  all_goals omega

theorem later_self (a : Instant) : a.later a = a := ite_self a

instance : LinearOrder Instant :=
  LinearOrder.lift' rank fun _ _ => rank_injective

theorem later_eq_max (a b : Instant) : a.later b = max a b := by
  rcases lt_or_ge a b with hlt | hle
  · exact (if_pos hlt).trans (max_eq_right hlt.le).symm
  · exact (if_neg hle.not_gt).trans (max_eq_left hle).symm

end Instant

end SmsGateway.Time
