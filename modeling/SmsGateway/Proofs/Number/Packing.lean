import Mathlib
import SmsGateway.Number.Single

namespace SmsGateway.Number

open Float.Model (Format UnpackedFloat)
open Float.Model.UnpackedFloat

section Formats

variable {spec : Format}

theorem zero_ne_neg_one : 0#(spec.exponentBits) ≠ -1#_ := by
  intro h
  have hones := congrArg BitVec.toNat h
  have hpow : 1 < 2 ^ spec.exponentBits := Nat.one_lt_two_pow (Nat.pos_iff_ne_zero.mp spec.he)
  rw [BitVec.neg_one_eq_allOnes, BitVec.toNat_allOnes, BitVec.toNat_zero] at hones
  omega

/-- Bits stand for no number if their exponent is the greatest and anything follows it. -/
theorem isNaN_unpack_iff {b : BitVec spec.numBits} :
    (unpack spec b).isNaN = true ↔ unpackExponent b = -1#_ ∧ unpackMantissa b ≠ 0#_ := by
  rw [unpack]
  split
  · split <;> simp_all [isNaN]
  · split
    · split <;> simp_all [isNaN]
    · simp_all [isNaN]

theorem isNaN_unpack_pack {u : UnpackedFloat} (h : u.isNaN = false) :
    (unpack spec (pack spec u)).isNaN = false := by
  rw [← Bool.not_eq_true, isNaN_unpack_iff, not_and_or]
  cases u with
  | notANumber => simp [isNaN] at h
  | infinity s => simp [pack, packedInfinity]
  | zero s => simp [pack, packedZero]
  | finite s m e hm =>
      rw [pack]
      split
      · simp [packedInfinity]
      · split
        · next hlt _ =>
            left
            intro hgreatest
            have hbits := congrArg BitVec.toNat hgreatest
            rw [unpackExponent_packComponents, BitVec.neg_one_eq_allOnes, BitVec.toNat_allOnes,
              BitVec.toNat_ofNat, Nat.mod_eq_of_lt (by omega)] at hbits
            omega
        · left
          rw [unpackExponent_packComponents]
          exact zero_ne_neg_one

theorem unpack_pack_unpack (hspec : 2 ≤ spec.exponentBits) (b : BitVec spec.numBits) :
    unpack spec (pack spec (unpack spec b)) = unpack spec b := by
  rw [pack_unpack b hspec]
  split
  · next hnan =>
      have hnone : (unpack spec b).isNaN = true := isNaN_unpack_iff.mpr (of_decide_eq_true hnan)
      rw [unpack_packedNaN, isNaN_iff.mp hnone]
  · rfl

end Formats

/-- The numbers that 32 bits stand for. They have 24 digits at most, and fewer only with the least
exponent. -/
inductive IsSingle : UnpackedFloat → Prop where
  | notANumber : IsSingle .notANumber
  | infinity (s : Sign) : IsSingle (.infinity s)
  | zero (s : Sign) : IsSingle (.zero s)
  | finite (s : Sign) {m : Nat} {e : Int} (hpos : 0 < m) (hsize : m < 16777216)
      (hfull : 8388608 ≤ m ∨ e = -149) (hleast : -149 ≤ e) (hgreatest : e ≤ 104) :
      IsSingle (.finite s m e hpos)

theorem toNat_one_append (b : BitVec 23) : (1#1 ++ b).toNat = 8388608 + b.toNat := by
  rw [BitVec.toNat_append, ← Nat.shiftLeft_add_eq_or_of_lt b.isLt]
  rfl

theorem isSingle_unpack (b : BitVec 32) : IsSingle (unpack .binary32 b) := by
  have hmantissa : (@unpackMantissa .binary32 b).toNat < 8388608 := BitVec.isLt _
  have hexponent : (@unpackExponent .binary32 b).toNat < 256 := BitVec.isLt _
  rw [unpack]
  split
  · split
    · exact .infinity _
    · exact .notANumber
  · next hgreatest =>
      split
      · next hleast =>
          split
          · exact .zero _
          · have hzero : (@unpackExponent .binary32 b).toNat = 0 := by
              rw [hleast]
              rfl
            rw [hzero]
            exact .finite _ _ (by omega) (.inr (by decide)) (by decide) (by decide)
      · next hleast =>
          have hne : (@unpackExponent .binary32 b).toNat ≠ 255 := fun h =>
            hgreatest (BitVec.eq_of_toNat_eq h)
          have hpos : (@unpackExponent .binary32 b).toNat ≠ 0 := fun h =>
            hleast (BitVec.eq_of_toNat_eq h)
          have happend := toNat_one_append (@unpackMantissa .binary32 b)
          have hbias : ((Format.binary32.exponentBias : Nat) : Int) = 127 := rfl
          have hwidth : ((Format.binary32.mantissaBitsWithoutImplicit : Nat) : Int) = 23 := rfl
          refine .finite _ _ ?_ (.inl ?_) ?_ ?_
          · omega
          · omega
          · rw [hbias, hwidth]
            omega
          · rw [hbias, hwidth]
            omega

end SmsGateway.Number
