import SmsGateway.Text.Hex

namespace SmsGateway.Text

/-- The digits that bytes are written with. -/
def IsLowerHexDigit (c : Char) : Prop :=
  ('0' ≤ c ∧ c ≤ '9') ∨ ('a' ≤ c ∧ c ≤ 'f')

instance : DecidablePred IsLowerHexDigit :=
  fun c => inferInstanceAs (Decidable (('0' ≤ c ∧ c ≤ '9') ∨ ('a' ≤ c ∧ c ≤ 'f')))

theorem hexValue?_hexDigit {n : Nat} (h : n < 16) : hexValue? (hexDigit n) = some n := by
  revert n
  decide

theorem isLowerHexDigit_hexDigit {n : Nat} (h : n < 16) : IsLowerHexDigit (hexDigit n) := by
  revert n
  decide

theorem IsLowerHexDigit.bounds {c : Char} (h : IsLowerHexDigit c) :
    0x20 < c.toNat ∧ c.toNat < 0x7F := by
  rcases h with ⟨hlow, hhigh⟩ | ⟨hlow, hhigh⟩
  · have h0 : 48 ≤ c.toNat := hlow
    have h9 : c.toNat ≤ 57 := hhigh
    omega
  · have ha : 97 ≤ c.toNat := hlow
    have hf : c.toNat ≤ 102 := hhigh
    omega

theorem isLowerHexDigit_of_mem_hexBytes {bs : List UInt8} {c : Char} (h : c ∈ hexBytes bs) :
    IsLowerHexDigit c := by
  obtain ⟨b, -, hc⟩ := List.mem_flatMap.mp h
  have hlt := b.toNat_lt
  rcases List.mem_cons.mp hc with rfl | hc
  · exact isLowerHexDigit_hexDigit (by omega)
  · obtain rfl := List.mem_singleton.mp hc
    exact isLowerHexDigit_hexDigit (by omega)

theorem length_hexBytes (bs : List UInt8) : (hexBytes bs).length = 2 * bs.length := by
  induction bs with
  | nil => rfl
  | cons b bs ih =>
      change (hexByte b ++ hexBytes bs).length = _
      rw [List.length_append, ih, List.length_cons, Nat.mul_add]
      exact Nat.add_comm _ _

theorem unhex?_hexBytes (bs : List UInt8) : unhex? (hexBytes bs) = some bs := by
  induction bs with
  | nil => rfl
  | cons b bs ih =>
      have hlt := b.toNat_lt
      have hhigh : hexValue? (hexDigit (b.toNat / 16)) = some (b.toNat / 16) :=
        hexValue?_hexDigit (by omega)
      have hlow : hexValue? (hexDigit (b.toNat % 16)) = some (b.toNat % 16) :=
        hexValue?_hexDigit (by omega)
      change unhex? (hexDigit (b.toNat / 16) :: hexDigit (b.toNat % 16) :: hexBytes bs) = _
      rw [unhex?, hhigh, hlow, ih]
      simp only [bind, pure, Option.bind_some, Nat.div_add_mod, UInt8.ofNat_toNat]

end SmsGateway.Text
