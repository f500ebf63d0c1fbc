import SmsGateway.Proofs.Number.Value

namespace SmsGateway.Number

open Float.Model (Format UnpackedFloat totalExponent)
open Float.Model.UnpackedFloat

/-- The numbers that are neither zero nor infinite. -/
inductive IsOrdinary : UnpackedFloat → Prop where
  | finite (s : Sign) {m : Nat} (e : Int) (hpos : 0 < m) : IsOrdinary (.finite s m e hpos)

instance : DecidablePred IsOrdinary
  | .finite s _ e hpos => .isTrue (.finite s e hpos)
  | .notANumber | .infinity _ | .zero _ => .isFalse nofun

section Formats

variable {spec : Format} {u v : UnpackedFloat}

theorem isNaN_roundWithAccuracy (s : Sign) (m : Nat) (e : Int) (a : Accuracy) :
    (roundWithAccuracy spec s m e a).isNaN = false := by
  rw [roundWithAccuracy]
  dsimp only
  split <;> rfl

theorem isNaN_round (s : Sign) (m : Nat) (e : Int) : (UnpackedFloat.round spec s m e).isNaN = false :=
  isNaN_roundWithAccuracy s _ _ _

theorem isNaN_normalize (m : Int) (e : Int) (s : Sign) :
    (UnpackedFloat.normalize spec m e s).isNaN = false := by
  rw [UnpackedFloat.normalize]
  split
  · exact isNaN_round _ _ _
  · rfl
  · exact isNaN_round _ _ _

theorem isNaN_mul (hu : u.isNaN = false) (hv : IsOrdinary v) : (UnpackedFloat.mul spec u v).isNaN = false := by
  obtain ⟨s, e, hpos⟩ := hv
  cases u with
  | notANumber => simp [isNaN] at hu
  | infinity => rfl
  | zero => rfl
  | finite => exact isNaN_roundWithAccuracy _ _ _ _

theorem isNaN_div (hu : u.isNaN = false) (hv : IsOrdinary v) : (UnpackedFloat.div spec u v).isNaN = false := by
  obtain ⟨s, e, hpos⟩ := hv
  cases u with
  | notANumber => simp [isNaN] at hu
  | infinity => rfl
  | zero => rfl
  | finite => exact isNaN_roundWithAccuracy _ _ _ _

theorem isNaN_neg : u.neg.isNaN = u.isNaN := by
  cases u <;> rfl

theorem isNaN_ofScientific (m : Nat) (e : Int) : (UnpackedFloat.ofScientific spec m e).isNaN = false := by
  rw [UnpackedFloat.ofScientific]
  split
  · rfl
  · split
    · rfl
    · split
      · rfl
      · split
        · exact isNaN_mul rfl (.finite ..)
        · exact isNaN_div rfl (.finite ..)

end Formats

section Floats

variable {x y : Float}

theorem isNaN_float_mul (hx : x.isNaN = false) (hy : IsOrdinary y.toModel.unpack) :
    (x * y).isNaN = false :=
  isNaN_unpack_pack (isNaN_mul hx hy)

theorem isNaN_float_div (hx : x.isNaN = false) (hy : IsOrdinary y.toModel.unpack) :
    (x / y).isNaN = false :=
  isNaN_unpack_pack (isNaN_div hx hy)

theorem isNaN_float_neg (hx : x.isNaN = false) : (-x).isNaN = false :=
  isNaN_unpack_pack (isNaN_neg.trans hx)

theorem isNaN_ofNat (n : Nat) : (Float.ofNat n).isNaN = false := by
  have hone : IsOrdinary Float.exactlyRepresentablePowersOfTen[0].toModel.unpack := by decide
  change (Float.ofScientific n false 0).isNaN = false
  rw [Float.ofScientific]
  split
  · refine isNaN_float_mul ?_ hone
    exact isNaN_unpack_pack (isNaN_normalize _ _ _)
  · exact isNaN_unpack_pack (isNaN_ofScientific _ _)

end Floats

section Rounding

theorem mantissa_shiftRight (em : ExtendedMantissa) (k : Nat) :
    (em >>> k).mantissa = em.mantissa / 2 ^ k := by
  induction k generalizing em with
  | zero => simp [HShiftRight.hShiftRight, Nat.repeat]
  | succ k ih =>
      change (em >>> k).mantissa / 2 = _
      rw [ih, Nat.div_div_eq_div_mul, Nat.pow_succ]

theorem roundedMantissa_bounds (em : ExtendedMantissa) :
    em.mantissa ≤ em.roundedMantissa ∧ em.roundedMantissa ≤ em.mantissa + 1 := by
  obtain ⟨m, r, s⟩ := em
  cases r <;> cases s <;>
    simp [ExtendedMantissa.roundedMantissa, ExtendedMantissa.accuracy, Accuracy.roundToNearestEven]
  omega

theorem log2_shiftLeft {n : Nat} (hn : n ≠ 0) (k : Nat) : (n <<< k).log2 = n.log2 + k := by
  obtain ⟨hlow, hhigh⟩ := (Nat.log2_eq_iff hn).mp rfl
  rw [Nat.shiftLeft_eq, Nat.log2_eq_iff (by positivity)]
  constructor
  · rw [Nat.pow_add]
    gcongr
  · rw [Nat.add_right_comm, Nat.pow_add]
    gcongr

theorem log2_firstDigits {m : Nat} (hm : 52 ≤ m.log2) : (m / 2 ^ (m.log2 - 52)).log2 = 52 := by
  rw [Nat.log2_eq_log_two, Nat.log_div_base_pow, ← Nat.log2_eq_log_two, Nat.sub_sub_self hm]

theorem shiftToTargetExponent_binary64 {m : Nat} {e : Int} (hm : 52 ≤ m.log2) (he : -1074 ≤ e) :
    (shiftToTargetExponent .binary64 m e .exact).1.mantissa = m / 2 ^ (m.log2 - 52) ∧
      (shiftToTargetExponent .binary64 m e .exact).2 = e + (m.log2 - 52 : Nat) := by
  have htarget : (Format.binary64.targetExponent (totalExponent m e) - e).toNat = m.log2 - 52 := by
    simp only [Format.targetExponent, totalExponent, Format.mantissaBits, Format.minExponent]
    norm_num
    omega
  rw [shiftToTargetExponent]
  simp only [shiftToExponent, htarget, mantissa_shiftRight, ExtendedMantissa.ofMantissaAndAccuracy]
  exact ⟨trivial, trivial⟩

theorem exists_roundWithAccuracy {s : Sign} {m : Nat} {e : Int} (hm : 52 ≤ m.log2)
    (he : -1074 ≤ e) :
    ∃ m' e' hpos, roundWithAccuracy .binary64 s m e .exact = .finite s m' e' hpos ∧
      m'.log2 = 52 ∧ e ≤ e' ∧ e' + 51 ≤ e + m.log2 := by
  obtain ⟨hmantissa, hexponent⟩ := shiftToTargetExponent_binary64 hm he
  obtain ⟨hlow, hhigh⟩ := roundedMantissa_bounds (shiftToTargetExponent .binary64 m e .exact).1
  have hfirst := log2_firstDigits hm
  rw [← hmantissa] at hfirst
  rw [roundWithAccuracy]
  generalize shiftToTargetExponent .binary64 m e .exact = first at *
  obtain ⟨em, e₁⟩ := first
  dsimp only at *
  have hne : em.mantissa ≠ 0 := by
    intro h
    simp [h] at hfirst
  obtain ⟨hfull, hsize⟩ := (Nat.log2_eq_iff hne).mp hfirst
  -- rounding up gives 54 digits at most, and then the last of them is dropped
  have hr : 52 ≤ em.roundedMantissa.log2 := (Nat.le_log2 (by omega)).mpr (by omega)
  have hr' : em.roundedMantissa.log2 < 54 := (Nat.log2_lt (by omega)).mpr (by omega)
  have he₁ : -1074 ≤ e₁ := by omega
  obtain ⟨hmantissa', hexponent'⟩ := shiftToTargetExponent_binary64 hr he₁
  have hlast := log2_firstDigits hr
  rw [← hmantissa'] at hlast
  generalize shiftToTargetExponent .binary64 em.roundedMantissa e₁ .exact = last at *
  have hne' : last.1.mantissa ≠ 0 := by
    intro h
    simp [h] at hlast
  rw [dif_neg hne']
  exact ⟨_, _, _, rfl, hlast, by omega, by omega⟩

theorem isOrdinary_unpack_pack {s : Sign} {m : Nat} {e : Int} (hpos : 0 < m) (hm : m.log2 = 52)
    (hleast : -1074 ≤ e) (hgreatest : e ≤ 971) :
    IsOrdinary (unpack .binary64 (pack .binary64 (.finite s m e hpos))) := by
  obtain ⟨k, hk⟩ : ∃ k : Nat, e + 1074 = k := ⟨(e + 1074).toNat, by omega⟩
  have hbiased : (e + ((Format.binary64.exponentBias : Nat) : Int) +
      ((Format.binary64.mantissaBitsWithoutImplicit : Nat) : Int)).toNat = k + 1 := by
    change (e + 1023 + 52).toNat = k + 1
    omega
  have hdigits : m.log2 + 1 = Format.binary64.mantissaBits := by rw [hm]; rfl
  have hroom : ¬ 2 ^ Format.binary64.exponentBits ≤ k + 1 + 1 := by
    change ¬ 2048 ≤ k + 1 + 1
    omega
  have hexponent : (BitVec.ofNat 11 (k + 1)).toNat = k + 1 := by
    rw [BitVec.toNat_ofNat]
    omega
  have hne : BitVec.ofNat 11 (k + 1) ≠ -1#11 := by
    intro h
    rw [h] at hexponent
    change 2047 = k + 1 at hexponent
    omega
  have hnz : BitVec.ofNat 11 (k + 1) ≠ 0#11 := by
    intro h
    rw [h] at hexponent
    simp at hexponent
  rw [pack]
  simp only [hbiased, if_neg hroom, if_pos hdigits]
  rw [unpack]
  simp only [unpackExponent_packComponents, if_neg hne, if_neg hnz]
  exact .finite ..

theorem ofScientific_zero {n : Nat} (hn : n ≠ 0) :
    ofScientific .binary64 n 0 =
      roundWithAccuracy .binary64 .positive (n <<< 53 * 10 ^ 0) (-53) .exact := by
  have hsmall : ¬ (0 : Int) < -(2 ^ Format.binary64.exponentBits + n.log2) := by
    change ¬ (0 : Int) < -(2048 + n.log2)
    omega
  rw [ofScientific, dif_neg hn, if_neg (by decide), if_neg hsmall, if_pos (by decide)]
  rfl

theorem isOrdinary_ofNat {n : Nat} (hlow : 9007199254740992 ≤ n) (hhigh : n.log2 < 1023) :
    IsOrdinary (Float.ofNat n).toModel.unpack := by
  have hne : n ≠ 0 := by omega
  have hmany : 52 ≤ (n <<< 53 * 10 ^ 0).log2 := by
    rw [Nat.pow_zero, Nat.mul_one, log2_shiftLeft hne]
    omega
  have hleast : -1074 ≤ (-53 : Int) := by decide
  obtain ⟨m, e, hpos, hround, hm, hlow', hhigh'⟩ :=
    exists_roundWithAccuracy (s := .positive) hmany hleast
  rw [← ofScientific_zero hne] at hround
  rw [Nat.pow_zero, Nat.mul_one, log2_shiftLeft hne] at hhigh'
  have hmodel : (Float.ofNat n).toModel = .pack (ofScientific .binary64 n 0) := by
    change (Float.ofScientific n false 0).toModel = _
    rw [Float.ofScientific, dif_neg (by omega)]
    rfl
  rw [hmodel, hround]
  exact isOrdinary_unpack_pack hpos hm (by omega) (by omega)

theorem isOrdinary_ofNat_ten_pow {k : Nat} (hk : k ≤ 308) :
    IsOrdinary (Float.ofNat (10 ^ k)).toModel.unpack := by
  have hends : ∀ k ∈ List.range 16 ++ [307, 308],
      IsOrdinary (Float.ofNat (10 ^ k)).toModel.unpack := by decide +kernel
  by_cases hend : k ∈ List.range 16 ++ [307, 308]
  · exact hends k hend
  · simp only [List.mem_append, List.mem_range, List.mem_cons, List.not_mem_nil, or_false, not_or]
      at hend
    have hlow : 10 ^ 16 ≤ 10 ^ k := Nat.pow_le_pow_right (by decide) (by omega)
    -- a variable, since powers with an exponent of that size are not to be evaluated
    obtain ⟨j, hj, hkj⟩ : ∃ j, j = 102 ∧ k ≤ 3 * j := ⟨102, rfl, by omega⟩
    have hhigh : 10 ^ k < 2 ^ (10 * j) := calc
      10 ^ k ≤ 10 ^ (3 * j) := Nat.pow_le_pow_right (by decide) hkj
      _ = (10 ^ 3) ^ j := Nat.pow_mul ..
      _ < (2 ^ 10) ^ j := Nat.pow_lt_pow_left (by decide) (by omega)
      _ = 2 ^ (10 * j) := (Nat.pow_mul ..).symm
    have hlog : (10 ^ k).log2 < 10 * j := (Nat.log2_lt (by omega)).mpr hhigh
    exact isOrdinary_ofNat (by omega) (by omega)

end Rounding

namespace Single

theorem not_isNaN_ofFloat32 {x : Float32} (h : x.isNaN = false) : ¬ (ofFloat32 x).IsNaN := by
  rw [IsNaN, Bool.not_eq_true]
  exact h

theorem not_isNaN_ofFloat {x : Float} (h : x.isNaN = false) : ¬ (ofFloat x).IsNaN := by
  refine not_isNaN_ofFloat32 (isNaN_unpack_pack ?_)
  split
  · exact isNaN_round _ _ _
  · exact h

theorem not_isNaN_ofInt (n : Int) : ¬ (ofInt n).IsNaN := by
  have hmagnitude : (UInt64.ofNat n.natAbs).toFloat32.isNaN = false :=
    isNaN_unpack_pack (isNaN_normalize _ _ _)
  refine not_isNaN_ofFloat32 ?_
  split
  · exact isNaN_unpack_pack (isNaN_neg.trans hmagnitude)
  · exact hmagnitude

end Single

end SmsGateway.Number
