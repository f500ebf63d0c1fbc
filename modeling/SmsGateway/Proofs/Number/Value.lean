import SmsGateway.Proofs.Number.Packing

namespace SmsGateway.Number

open Float.Model (UnpackedFloat)
open Float.Model.UnpackedFloat

/-- Whether a floating-point number is worth at least a rational. Infinity is, and what is no number
is not. -/
def IsAtLeast (q : ℚ) : UnpackedFloat → Prop
  | .infinity .positive => True
  | .zero _ => q ≤ 0
  | .finite .positive m e _ => q ≤ m * 2 ^ e
  | .finite .negative m e _ => q ≤ -(m * 2 ^ e)
  | _ => False

theorem mul_zpow_lt_mul_zpow {m m' : Nat} {e e' : Int} (hsize : m < 16777216)
    (hfull : 8388608 ≤ m') (h : e < e') : (m * 2 ^ e : ℚ) < m' * 2 ^ e' := by
  have hpos : (0 : ℚ) < 2 ^ e := by positivity
  have hstep : (2 : ℚ) ^ (e + 1) ≤ 2 ^ e' := zpow_le_zpow_right₀ (by norm_num) h
  have hm : (m : ℚ) < 16777216 := by exact_mod_cast hsize
  have hm' : (8388608 : ℚ) ≤ m' := by exact_mod_cast hfull
  calc (m * 2 ^ e : ℚ) < 16777216 * 2 ^ e := by gcongr
    _ = 8388608 * 2 ^ (e + 1) := by rw [zpow_add_one₀ (by norm_num)]; ring
    _ ≤ m' * 2 ^ e' := by gcongr

theorem mul_zpow_lt_iff {m m' : Nat} {e e' : Int} (hsize : m < 16777216)
    (hfull : 8388608 ≤ m ∨ e = -149) (hleast : -149 ≤ e) (hsize' : m' < 16777216)
    (hfull' : 8388608 ≤ m' ∨ e' = -149) (hleast' : -149 ≤ e') :
    (m * 2 ^ e : ℚ) < m' * 2 ^ e' ↔ (compare e e').then (compare m m') = .lt := by
  rw [Ordering.then_eq_lt, compare_lt_iff_lt, compare_eq_iff_eq, compare_lt_iff_lt]
  rcases lt_trichotomy e e' with h | rfl | h
  · have hlt : (m * 2 ^ e : ℚ) < m' * 2 ^ e' := mul_zpow_lt_mul_zpow hsize (by omega) h
    simp [h, hlt]
  · have hpos : (0 : ℚ) < 2 ^ e := by positivity
    simp [hpos]
  · have hlt : (m' * 2 ^ e' : ℚ) < m * 2 ^ e := mul_zpow_lt_mul_zpow hsize' (by omega) h
    simp [hlt.not_gt, h.not_gt, h.ne']

/-- The number one, with all its digits. -/
def one : UnpackedFloat := .finite .positive 8388608 (-23) (by decide)

theorem lt_one_eq_false_iff {u : UnpackedFloat} (h : IsSingle u) :
    u.lt one = false ↔ u.isNaN = true ∨ IsAtLeast 1 u := by
  have hone : (8388608 * 2 ^ (-23 : Int) : ℚ) = 1 := by norm_num
  cases h with
  | notANumber => simp [UnpackedFloat.lt, UnpackedFloat.compare, isNaN]
  | infinity s => cases s <;> simp [UnpackedFloat.lt, UnpackedFloat.compare, one, isNaN, IsAtLeast]
  | zero s => simp [UnpackedFloat.lt, UnpackedFloat.compare, one, isNaN, IsAtLeast]
  | @finite s m e hpos hsize hfull hleast =>
      cases s with
      | negative =>
          have hlt : (-(m * 2 ^ e) : ℚ) < 1 := by
            have hworth : (0 : ℚ) < m * 2 ^ e := by positivity
            exact (neg_neg_of_pos hworth).trans one_pos
          simp [UnpackedFloat.lt, UnpackedFloat.compare, one, isNaN, IsAtLeast, hlt]
      | positive =>
          have hlt : (m * 2 ^ e : ℚ) < (8388608 : Nat) * 2 ^ (-23 : Int) ↔ _ :=
            mul_zpow_lt_iff hsize hfull hleast (by decide) (.inl le_rfl) (by decide)
          rw [Nat.cast_ofNat, hone] at hlt
          simp [UnpackedFloat.lt, UnpackedFloat.compare, one, isNaN, IsAtLeast, ← hlt]

namespace Single

/-- Whether the bits stand for no number. -/
def IsNaN (x : Single) : Prop :=
  (unpack .binary32 x.bits.toBitVec).isNaN = true

/-- Whether the bits stand for a number that is worth at least a rational. -/
def IsAtLeast (q : ℚ) (x : Single) : Prop :=
  Number.IsAtLeast q (unpack .binary32 x.bits.toBitVec)

theorem IsAtLeast.not_isNaN {q : ℚ} {x : Single} (h : x.IsAtLeast q) : ¬ x.IsNaN := by
  intro hnan
  rw [IsAtLeast] at h
  rw [IsNaN] at hnan
  cases hu : unpack .binary32 x.bits.toBitVec with
  | notANumber =>
      rw [hu] at h
      exact h
  | _ => simp [hu, isNaN] at hnan

theorem unpack_toFloat32 (x : Single) :
    x.toFloat32.toModel.unpack = unpack .binary32 x.bits.toBitVec :=
  unpack_pack_unpack (by decide) _

/-- A number that is not found to be less than one is one at least, unless it is no number. -/
theorem not_lt_one_iff {x : Single} : ¬ x.toFloat32 < 1.0 ↔ x.IsNaN ∨ x.IsAtLeast 1 := by
  have hone : (1.0 : Float32).toModel.unpack = one := rfl
  change ¬ (decide (x.toFloat32.toModel.unpack.lt (1.0 : Float32).toModel.unpack = true) = true) ↔ _
  rw [decide_eq_true_iff, hone, unpack_toFloat32, Bool.not_eq_true]
  exact lt_one_eq_false_iff (isSingle_unpack _)

end Single

end SmsGateway.Number
