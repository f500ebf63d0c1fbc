import Mathlib.Algebra.Group.Nat.Defs
import SmsGateway.Proofs.Text.Scanning
import SmsGateway.Time.Text

namespace SmsGateway.Time

open SmsGateway.Text

/-- Whether a text does not go on with a digit. -/
def EndsDigits (s : List Char) : Prop :=
  ∀ c ∈ s.head?, c.isDigit = false

theorem endsDigits_cons {c : Char} (h : c.isDigit = false) (s : List Char) : EndsDigits (c :: s) := by
  intro d hd
  obtain rfl : c = d := by simpa using hd
  exact h

theorem isDigit_of_mem_padded {width n : Nat} {c : Char} (h : c ∈ padded width n) :
    c.isDigit = true := by
  rcases List.mem_append.mp h with h | h
  · obtain rfl := (List.mem_replicate.mp h).2
    decide
  · exact Nat.isDigit_of_mem_toDigits (by omega) (by omega) h

theorem length_padded {width n : Nat} (hwidth : 0 < width) (h : n < 10 ^ width) :
    (padded width n).length = width := by
  have hlength := (Nat.length_toDigits_le_iff (by omega : 1 < 10) hwidth).mpr h
  simp only [padded, List.length_append, List.length_replicate]
  omega

theorem padded_ne_nil (width n : Nat) : padded width n ≠ [] := by
  simp [padded]

theorem ofDigitChars_padded (width n : Nat) : Nat.ofDigitChars 10 (padded width n) 0 = n := by
  simp [padded, Nat.ofDigitChars_append]

theorem toNat_of_isDigit {c : Char} (h : c.isDigit = true) : 48 ≤ c.toNat ∧ c.toNat ≤ 57 :=
  Char.isDigit_iff_toNat.mp h

theorem ofDigitChars_lt {ds : List Char} (hds : ∀ c ∈ ds, c.isDigit = true) (n : Nat) :
    Nat.ofDigitChars 10 ds n < (n + 1) * 10 ^ ds.length := by
  induction ds generalizing n with
  | nil => simp
  | cons c ds ih =>
      obtain ⟨hc, hrest⟩ := List.forall_mem_cons.mp hds
      have hnine : c.toNat - '0'.toNat ≤ 9 := by
        have hbounds := toNat_of_isDigit hc
        have hzero : '0'.toNat = 48 := rfl
        omega
      have hnext : 10 * n + (c.toNat - '0'.toNat) + 1 ≤ (n + 1) * 10 := by omega
      calc Nat.ofDigitChars 10 (c :: ds) n
          = Nat.ofDigitChars 10 ds (10 * n + (c.toNat - '0'.toNat)) := Nat.ofDigitChars_cons
        _ < (10 * n + (c.toNat - '0'.toNat) + 1) * 10 ^ ds.length := ih hrest _
        _ ≤ (n + 1) * 10 * 10 ^ ds.length := Nat.mul_le_mul_right _ hnext
        _ = (n + 1) * 10 ^ (c :: ds).length := by
          rw [List.length_cons, Nat.pow_succ', Nat.mul_assoc]

theorem readDigits_append {most : Nat} {ds s : List Char} (hds : ∀ c ∈ ds, c.isDigit = true)
    (hne : ds ≠ []) (hlength : ds.length ≤ most) (hend : ds.length = most ∨ EndsDigits s) :
    readDigits most (ds ++ s) = some ((Nat.ofDigitChars 10 ds 0, ds.length), s) := by
  have hrest : (s.take (most - ds.length)).takeWhile Char.isDigit = [] := by
    rcases hend with hend | hend
    · simp [hend]
    · apply takeWhile_of_head?
      intro c hc
      rw [List.head?_take] at hc
      split at hc
      · simp at hc
      · exact hend c hc
  have hdigits : ((ds ++ s).take most).takeWhile Char.isDigit = ds := by
    rw [List.take_append, List.take_of_length_le hlength, List.takeWhile_append_of_pos hds, hrest,
      List.append_nil]
  simp only [readDigits, hdigits, if_neg hne, List.drop_left]

theorem readDigits_padded {most width n : Nat} {s : List Char} (hwidth : 0 < width)
    (h : n < 10 ^ width) (hmost : width ≤ most) (hend : width = most ∨ EndsDigits s) :
    readDigits most (padded width n ++ s) = some ((n, width), s) := by
  have hlength := length_padded hwidth h
  have hread := readDigits_append (s := s) (fun c => isDigit_of_mem_padded) (padded_ne_nil width n)
    (by omega : (padded width n).length ≤ most) (by rwa [hlength])
  rw [ofDigitChars_padded, hlength] at hread
  exact hread

theorem isBlank_of_isDigit {c : Char} (h : c.isDigit = true) : isBlank c = false := by
  have hbounds := toNat_of_isDigit h
  simp only [isBlank, Bool.or_eq_false_iff, Bool.and_eq_false_iff, decide_eq_false_iff_not,
    beq_eq_false_iff_ne]
  omega

theorem dropBlanks_cons {c : Char} (h : isBlank c = false) (s : List Char) :
    dropBlanks (c :: s) = c :: s := by
  rw [dropBlanks, List.dropWhile_cons_of_neg]
  simp [h]

theorem dropBlanks_padded (width n : Nat) (s : List Char) :
    dropBlanks (padded width n ++ s) = padded width n ++ s := by
  cases hpadded : padded width n with
  | nil => exact absurd hpadded (padded_ne_nil width n)
  | cons c cs =>
      have hdigit : c.isDigit = true := isDigit_of_mem_padded (by rw [hpadded]; simp)
      exact dropBlanks_cons (isBlank_of_isDigit hdigit) _

end SmsGateway.Time
