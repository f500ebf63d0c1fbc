import SmsGateway.Json.Document
import SmsGateway.Json.Writer
import SmsGateway.Proofs.Text.Hex

namespace SmsGateway.Json

open SmsGateway.Text

/-- Puts a character before a string that was read. -/
def prepend (c : Char) (t : Option (List Char) × List Char) : Option (List Char) × List Char :=
  (t.1.map (c :: ·), t.2)

theorem readString_eq (s : List Char) :
    readString s =
      match s.dropWhile isPlain with
      | '"' :: rest => some (some (s.takeWhile isPlain), rest)
      | '\\' :: rest =>
          (readEscape rest).bind fun (c, rest') =>
            (readString rest').map fun (more, rest'') =>
              (c.bind fun c => more.map fun more => s.takeWhile isPlain ++ c :: more, rest'')
      | _ => none := by
  rw [readString]
  dsimp only
  generalize s.dropWhile isPlain = left
  split
  · simp
  · next rest =>
      simp only
      split
      · next hescape => simp [hescape]
      · next hescape =>
          rw [hescape, Option.bind_some]
          dsimp only
          split
          · next hmore => simp [hmore]
          · next c _ _ more _ hmore =>
              rw [hmore]
              cases c <;> cases more <;> rfl
  · split <;> simp_all

theorem readString_cons_of_isPlain {c : Char} (h : isPlain c = true) (s : List Char) :
    readString (c :: s) = (readString s).map (prepend c) := by
  rw [readString_eq, readString_eq, List.takeWhile_cons_of_pos h, List.dropWhile_cons_of_pos h]
  split
  · simp [prepend]
  · next rest _ =>
      cases hescape : readEscape rest with
      | none => rfl
      | some found =>
          obtain ⟨d, rest'⟩ := found
          rw [Option.bind_some, Option.bind_some]
          dsimp only
          cases readString rest' with
          | none => rfl
          | some found =>
              obtain ⟨more, rest''⟩ := found
              cases d <;> cases more <;> rfl
  · simp

theorem readString_escaped {s rest : List Char} {c : Char}
    (h : readEscape s = some (some c, rest)) :
    readString ('\\' :: s) = (readString rest).map (prepend c) := by
  have hplain : ¬ isPlain '\\' = true := by decide
  rw [readString_eq, List.takeWhile_cons_of_neg hplain, List.dropWhile_cons_of_neg hplain]
  simp only [h, Option.bind_some]
  cases readString rest with
  | none => rfl
  | some found =>
      obtain ⟨more, rest'⟩ := found
      cases more <;> rfl

theorem readUnicode_hexByte {n : Nat} (h : n < 32) (s : List Char) :
    readUnicode ('0' :: '0' :: (hexByte (UInt8.ofNat n) ++ s)) =
      some (some (Char.ofNat n), s) := by
  have hbyte : (UInt8.ofNat n).toNat = n := by
    rw [UInt8.toNat_ofNat']
    omega
  have hhigh : hexValue? (hexDigit (n / 16)) = some (n / 16) := hexValue?_hexDigit (by omega)
  have hlow : hexValue? (hexDigit (n % 16)) = some (n % 16) := hexValue?_hexDigit (by omega)
  have hzero : hexValue? '0' = some 0 := by decide
  have hunit : readUnit ('0' :: '0' :: (hexByte (UInt8.ofNat n) ++ s)) = some (n, s) := by
    have hvalue : 16 * (n / 16) + n % 16 = n := by omega
    simp [readUnit, hexByte, hbyte, hhigh, hlow, hzero, hvalue]
  rw [readUnicode, hunit]
  dsimp only
  rw [if_neg (by omega), if_neg (by omega)]

theorem readString_escape (c : Char) (s : List Char) :
    readString (escape c ++ s) = (readString s).map (prepend c) := by
  unfold escape
  split
  · next h => exact readString_escaped (by rw [h]; rfl)
  split
  · next h => exact readString_escaped (by rw [h]; rfl)
  split
  · next h => exact readString_escaped (by rw [h]; rfl)
  split
  · next h => exact readString_escaped (by rw [h]; rfl)
  split
  · next h => exact readString_escaped (by rw [h]; rfl)
  split
  · next h => exact readString_escaped (by rw [h]; rfl)
  split
  · next h => exact readString_escaped (by rw [h]; rfl)
  split
  · next h =>
      have hunicode := readUnicode_hexByte h s
      rw [Char.ofNat_toNat] at hunicode
      exact readString_escaped hunicode
  · next hquote hbackslash _ _ _ _ _ hcontrol =>
      apply readString_cons_of_isPlain
      simp only [isPlain, Bool.and_eq_true, bne_iff_ne, decide_eq_true_eq]
      exact ⟨⟨hquote, hbackslash⟩, by omega⟩

/-- A written string is read back up to its closing quote. -/
theorem readString_flatMap_escape (cs s : List Char) :
    readString (cs.flatMap escape ++ '"' :: s) = some (some cs, s) := by
  induction cs with
  | nil =>
      have hplain : ¬ isPlain '"' = true := by decide
      rw [List.flatMap_nil, List.nil_append, readString_eq, List.takeWhile_cons_of_neg hplain,
        List.dropWhile_cons_of_neg hplain]
      simp only
  | cons c cs ih =>
      rw [List.flatMap_cons, List.append_assoc, readString_escape, ih]
      rfl

end SmsGateway.Json
