import SmsGateway.Proofs.Text.Hex
import SmsGateway.Text.Blank
import SmsGateway.Uuid

namespace SmsGateway

open SmsGateway.Text

namespace Uuid

theorem ofDigits?_hexBytes (u : Uuid) : ofDigits? (hexBytes u.octets) = some u := by
  rw [ofDigits?, unhex?_hexBytes, Option.bind_some, ofOctets?, dif_pos u.size_eq]

theorem ofHyphenated?_groups {a b c d e : List Char} (ha : a.length = 8) (hb : b.length = 4)
    (hc : c.length = 4) (hd : d.length = 4) (he : e.length = 12) :
    ofHyphenated? (a ++ '-' :: b ++ '-' :: c ++ '-' :: d ++ '-' :: e) =
      ofDigits? (a ++ b ++ c ++ d ++ e) := by
  simp [ofHyphenated?, List.drop_append, List.drop_of_length_le, List.getElem?_append, ha, hb, hc,
    hd, he]

theorem take_append_drop_add (m n : Nat) (s : List Char) :
    (s.drop m).take n ++ s.drop (m + n) = s.drop m := by
  rw [← List.drop_drop, List.take_append_drop]

theorem length_chars (u : Uuid) : u.chars.length = 36 := by
  simp [chars, length_hexBytes, u.size_eq]

theorem ofText?_text (u : Uuid) : ofText? u.text = some u := by
  have hlength : (hexBytes u.octets).length = 32 := by
    rw [length_hexBytes, u.size_eq]
  have hgroups : ofHyphenated? u.chars = some u := by
    rw [← ofDigits?_hexBytes u, chars]
    generalize hexBytes u.octets = s at hlength
    have h16 : (s.drop 16).take 4 ++ s.drop 20 = s.drop 16 := take_append_drop_add 16 4 s
    have h12 : (s.drop 12).take 4 ++ s.drop 16 = s.drop 12 := take_append_drop_add 12 4 s
    have h8 : (s.drop 8).take 4 ++ s.drop 12 = s.drop 8 := take_append_drop_add 8 4 s
    rw [ofHyphenated?_groups, List.append_assoc, h16, List.append_assoc, h12, List.append_assoc, h8,
      List.take_append_drop]
    all_goals simp [hlength]
  rw [ofText?, text, String.toList_ofList, ofChars?, length_chars]
  exact hgroups

theorem isBlankText_text (u : Uuid) : isBlankText u.text = false := by
  have hyphen : '-' ∈ u.chars := by simp [chars]
  rw [isBlankText, text, String.toList_ofList, List.all_eq_false]
  exact ⟨'-', hyphen, by decide⟩

end Uuid

end SmsGateway
