import Mathlib.Data.List.Basic
import Mathlib.Data.List.DropRight
import SmsGateway.Text.Blank

namespace SmsGateway.Text

variable {p : Char → Bool} {ds s : List Char}

theorem takeWhile_of_head? (h : ∀ c ∈ s.head?, p c = false) : s.takeWhile p = [] := by
  cases s with
  | nil => rfl
  | cons c s =>
      apply List.takeWhile_cons_of_neg
      simp [h c rfl]

theorem dropWhile_of_head? (h : ∀ c ∈ s.head?, p c = false) : s.dropWhile p = s := by
  cases s with
  | nil => rfl
  | cons c s =>
      apply List.dropWhile_cons_of_neg
      simp [h c rfl]

theorem takeWhile_append_of_head? (hds : ∀ c ∈ ds, p c = true) (h : ∀ c ∈ s.head?, p c = false) :
    (ds ++ s).takeWhile p = ds := by
  rw [List.takeWhile_append_of_pos hds, takeWhile_of_head? h, List.append_nil]

theorem dropWhile_append_of_head? (hds : ∀ c ∈ ds, p c = true) (h : ∀ c ∈ s.head?, p c = false) :
    (ds ++ s).dropWhile p = s := by
  rw [List.dropWhile_append_of_pos hds, dropWhile_of_head? h]

theorem isBlankText_trim_iff (t : String) : isBlankText (trim t) = true ↔ trim t = "" := by
  constructor
  · intro h
    rw [isBlankText, trim, String.toList_ofList, List.all_reverse] at h
    have hnothing : dropBlanks (dropBlanks (dropBlanks t.toList).reverse) = [] :=
      dropWhile_eq_nil_iff.mpr h
    rw [dropBlanks, dropBlanks, List.dropWhile_idempotent] at hnothing
    rw [trim, dropBlanks, hnothing]
    rfl
  · intro h
    rw [h]
    rfl

end SmsGateway.Text
