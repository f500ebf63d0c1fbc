import Mathlib.Data.List.Basic
import SmsGateway.Json.Numeral
import SmsGateway.Json.Writer
import SmsGateway.Proofs.Text.Scanning

namespace SmsGateway.Json

/-- Whether a text does not continue a number that stands before it. -/
def EndsNumeral (s : List Char) : Prop :=
  ∀ c ∈ s.head?, c.isDigit = false ∧ c ≠ '.' ∧ c ≠ 'e' ∧ c ≠ 'E'

theorem endsNumeral_nil : EndsNumeral [] := by
  intro c h
  simp at h

theorem endsNumeral_cons {c : Char} (hdigit : c.isDigit = false)
    (hmark : c ≠ '.' ∧ c ≠ 'e' ∧ c ≠ 'E') (s : List Char) : EndsNumeral (c :: s) := by
  intro d h
  obtain rfl : c = d := by simpa using h
  exact ⟨hdigit, hmark⟩

theorem takeDigits_append {ds s : List Char} (hds : ∀ c ∈ ds, c.isDigit = true)
    (hs : ∀ c ∈ s.head?, c.isDigit = false) : takeDigits (ds ++ s) = (ds, s) := by
  rw [takeDigits, Text.takeWhile_append_of_head? hds hs, Text.dropWhile_append_of_head? hds hs]

theorem isDigit_of_mem_toDigits {n : Nat} {c : Char} (h : c ∈ Nat.toDigits 10 n) :
    c.isDigit = true :=
  Nat.isDigit_of_mem_toDigits (by omega) (by omega) h

theorem head?_toDigits_ne {n : Nat} (h : 0 < n) : (Nat.toDigits 10 n).head? ≠ some '0' := by
  induction n using Nat.strongRecOn with
  | ind n ih =>
      by_cases hn : n < 10
      · have hsmall : ∀ m < 10, 0 < m → [Nat.digitChar m].head? ≠ some '0' := by decide
        rw [Nat.toDigits_of_lt_base (by omega)]
        exact hsmall n hn h
      · rw [Nat.toDigits_of_base_le (by omega) (by omega), List.head?_append_of_ne_nil _ (by simp)]
        exact ih (n / 10) (by omega) (by omega)

theorem readWhole_toDigits (n : Nat) {s : List Char} (hs : ∀ c ∈ s.head?, c.isDigit = false) :
    readWhole (Nat.toDigits 10 n ++ s) = some (Nat.toDigits 10 n, s) := by
  have htake : takeDigits (Nat.toDigits 10 n ++ s) = (Nat.toDigits 10 n, s) :=
    takeDigits_append (fun c => isDigit_of_mem_toDigits) hs
  rw [readWhole, htake]
  split
  · next h => simp at h
  · next h =>
      exfalso
      obtain ⟨hdigits, -⟩ := Prod.mk.inj h
      by_cases hn : n = 0
      · subst hn
        simp at hdigits
      · apply head?_toDigits_ne (Nat.pos_of_ne_zero hn)
        rw [hdigits]
        rfl
  · next h =>
      obtain ⟨rfl, rfl⟩ := Prod.mk.inj h
      rfl

theorem readFraction_of_endsNumeral {s : List Char} (hs : EndsNumeral s) :
    readFraction s = some (none, s) := by
  unfold readFraction
  split
  · exact absurd rfl (hs '.' rfl).2.1
  · rfl

theorem readExponent_of_endsNumeral {s : List Char} (hs : EndsNumeral s) :
    readExponent s = some (none, s) := by
  cases s with
  | nil => rfl
  | cons c s =>
      obtain ⟨-, -, he, hE⟩ := hs c rfl
      unfold readExponent
      simp only [he, hE, or_self, if_false]

theorem readNumeral_toDigits (n : Nat) {s : List Char} (hs : EndsNumeral s) :
    readNumeral (Nat.toDigits 10 n ++ s) =
      some (⟨false, Nat.toDigits 10 n, [], none, false⟩, s) := by
  have hsign : ((Nat.toDigits 10 n ++ s).head? == some '-') = false := by
    rw [List.head?_append_of_ne_nil _ (by simp), beq_eq_false_iff_ne]
    intro hhead
    have hdigit : '-'.isDigit = true := isDigit_of_mem_toDigits (List.mem_of_mem_head? hhead)
    simp at hdigit
  have hwhole := readWhole_toDigits n (fun c hc => (hs c hc).1)
  simp only [readNumeral, hsign, hwhole, bind, Option.bind_some, Bool.false_eq_true, if_false,
    readFraction_of_endsNumeral hs, readExponent_of_endsNumeral hs]
  rfl

theorem readNumeral_neg_toDigits (n : Nat) {s : List Char} (hs : EndsNumeral s) :
    readNumeral ('-' :: (Nat.toDigits 10 n ++ s)) =
      some (⟨true, Nat.toDigits 10 n, [], none, false⟩, s) := by
  have hwhole := readWhole_toDigits n (fun c hc => (hs c hc).1)
  simp [readNumeral, hwhole, readFraction_of_endsNumeral hs, readExponent_of_endsNumeral hs]

theorem readNumeral_intChars {n : Int} (hn : (Number.int n).InRange) {s : List Char}
    (hs : EndsNumeral s) :
    ∃ t, readNumeral (intChars n ++ s) = some (t, s) ∧ t.value? = some (.int n) := by
  obtain ⟨hleast, hgreatest⟩ := hn
  rw [intChars]
  split
  · refine ⟨_, readNumeral_neg_toDigits n.natAbs hs, ?_⟩
    have hpos : 0 < n.natAbs := by omega
    have hle : n.natAbs ≤ 9223372036854775808 := by omega
    have hvalue : -(n.natAbs : Int) = n := by omega
    simp only [Numeral.value?, digitsValue, Nat.ofDigitChars_ten_toDigits, Bool.not_false,
      Option.isNone_none, Bool.and_self, Bool.not_true, Bool.and_false, Bool.false_and,
      Bool.false_eq_true, if_false, if_true, hpos, hle, decide_true, hvalue]
  · refine ⟨_, readNumeral_toDigits n.natAbs hs, ?_⟩
    have hlt : n.natAbs < 18446744073709551616 := by omega
    have hvalue : (n.natAbs : Int) = n := by omega
    simp only [Numeral.value?, digitsValue, Nat.ofDigitChars_ten_toDigits, Bool.not_false,
      Option.isNone_none, Bool.and_self, if_true, hlt, decide_true, hvalue]

end SmsGateway.Json
