import SmsGateway.Proofs.Text.Hex
import SmsGateway.Proofs.Text.Utf8
import SmsGateway.Text.Percent

namespace SmsGateway.Text

/-- Whether a character stands for itself wherever it comes in a path. -/
def isUnreserved (c : Char) : Bool :=
  c.isAlphanum || c ∈ ['-', '.', '_', '~']

/-- Bytes as they are written with percent escapes, whose digits may be of either case. -/
inductive PercentEncoded : List UInt8 → List Char → Prop where
  | nil : PercentEncoded [] []
  | unreserved {c : Char} {bs : List UInt8} {cs : List Char} (hc : isUnreserved c = true)
      (h : PercentEncoded bs cs) : PercentEncoded (UInt8.ofNat c.toNat :: bs) (c :: cs)
  | escaped {b : UInt8} {high low : Char} {bs : List UInt8} {cs : List Char}
      (hb : isUnreserved (Char.ofNat b.toNat) = false)
      (hhigh : hexValue? high = some (b.toNat / 16)) (hlow : hexValue? low = some (b.toNat % 16))
      (h : PercentEncoded bs cs) : PercentEncoded (b :: bs) ('%' :: high :: low :: cs)

/-- One way to write bytes with percent escapes. -/
def percentEncode (bs : List UInt8) : List Char :=
  bs.flatMap fun b =>
    if isUnreserved (Char.ofNat b.toNat) then [Char.ofNat b.toNat] else '%' :: hexByte b

theorem percentEncoded_percentEncode (bs : List UInt8) : PercentEncoded bs (percentEncode bs) := by
  induction bs with
  | nil => exact .nil
  | cons b bs ih =>
      have hlt := b.toNat_lt
      rw [percentEncode, List.flatMap_cons]
      cases hb : isUnreserved (Char.ofNat b.toNat) with
      | true =>
          have hback : UInt8.ofNat (Char.ofNat b.toNat).toNat = b := by
            have hvalid : b.toNat.isValidChar := .inl (Nat.lt_trans hlt (by decide))
            have hcode : (Char.ofNat b.toNat).toNat = b.toNat := by
              rw [Char.ofNat, dif_pos hvalid]
              rfl
            rw [hcode, UInt8.ofNat_toNat]
          have hencoded := PercentEncoded.unreserved hb ih
          rwa [hback] at hencoded
      | false =>
          refine .escaped hb ?_ ?_ ih
          · exact hexValue?_hexDigit (by omega)
          · exact hexValue?_hexDigit (by omega)

theorem lt_of_isUnreserved {c : Char} (h : isUnreserved c = true) : c.toNat < 128 := by
  change (decide (c.val ≥ 65 ∧ c.val ≤ 90) || (decide (c.val ≥ 97) && decide (c.val ≤ 122)) ||
    (decide (c.val ≥ 48) && decide (c.val ≤ 57)) || decide (c ∈ ['-', '.', '_', '~'])) = true at h
  simp only [Bool.or_eq_true, Bool.and_eq_true, decide_eq_true_eq, UInt32.le_iff_toNat_le,
    ge_iff_le, List.mem_cons, List.not_mem_nil, or_false] at h
  change (((65 ≤ c.toNat ∧ c.toNat ≤ 90) ∨ (97 ≤ c.toNat ∧ c.toNat ≤ 122)) ∨
    (48 ≤ c.toNat ∧ c.toNat ≤ 57)) ∨ _ at h
  rcases h with h | rfl | rfl | rfl | rfl
  · omega
  all_goals decide

theorem lt_of_hexValue? {c : Char} {n : Nat} (h : hexValue? c = some n) : c.toNat < 128 := by
  have hle {d : Char} (hd : d.toNat < 128) (hc : c ≤ d) : c.toNat < 128 := by
    have : c.toNat ≤ d.toNat := hc
    omega
  unfold hexValue? at h
  split at h
  · next hrange => exact hle (by decide) hrange.2
  · split at h
    · next hrange => exact hle (by decide) hrange.2
    · split at h
      · next hrange => exact hle (by decide) hrange.2
      · simp at h

theorem PercentEncoded.forall_mem {bs : List UInt8} {cs : List Char} (h : PercentEncoded bs cs) :
    ∀ c ∈ cs, c.toNat < 128 ∧ c ≠ '/' ∧ c ≠ '?' := by
  have hdigit {c : Char} {n : Nat} (hc : hexValue? c = some n) :
      c.toNat < 128 ∧ c ≠ '/' ∧ c ≠ '?' := by
    refine ⟨lt_of_hexValue? hc, ?_, ?_⟩
    · rintro rfl
      exact absurd hc (by simp [show hexValue? '/' = none by decide])
    · rintro rfl
      exact absurd hc (by simp [show hexValue? '?' = none by decide])
  induction h with
  | nil => simp
  | unreserved hc _ ih =>
      refine List.forall_mem_cons.mpr ⟨⟨lt_of_isUnreserved hc, ?_, ?_⟩, ih⟩
      · rintro rfl
        exact absurd hc (by decide)
      · rintro rfl
        exact absurd hc (by decide)
  | escaped hb hhigh hlow _ ih =>
      exact List.forall_mem_cons.mpr ⟨by decide,
        List.forall_mem_cons.mpr ⟨hdigit hhigh, List.forall_mem_cons.mpr ⟨hdigit hlow, ih⟩⟩⟩

theorem percentDecode_cons {b : UInt8} (hb : b ≠ 0x25) (bs : List UInt8) :
    percentDecode (b :: bs) = b :: percentDecode bs := by
  rcases bs with _ | ⟨c, _ | ⟨d, bs⟩⟩
  · rfl
  · rfl
  · rw [percentDecode, if_neg hb]

theorem charOfNat_toNat {c : Char} (h : c.toNat < 128) :
    Char.ofNat (UInt8.ofNat c.toNat).toNat = c := by
  rw [UInt8.toNat_ofNat_of_lt' (Nat.lt_trans h (by decide)), Char.ofNat_toNat]

theorem percentDecode_escape {b : UInt8} {high low : Char}
    (hhigh : hexValue? high = some (b.toNat / 16)) (hlow : hexValue? low = some (b.toNat % 16))
    (bs : List UInt8) :
    percentDecode (0x25 :: UInt8.ofNat high.toNat :: UInt8.ofNat low.toNat :: bs) =
      b :: percentDecode bs := by
  rw [percentDecode, if_pos rfl]
  simp only [charOfNat_toNat (lt_of_hexValue? hhigh), charOfNat_toNat (lt_of_hexValue? hlow), hhigh,
    hlow, Nat.div_add_mod, UInt8.ofNat_toNat]

theorem PercentEncoded.percentDecode_bytes {bs : List UInt8} {cs : List Char}
    (h : PercentEncoded bs cs) : percentDecode (bytes (String.ofList cs)) = bs := by
  have hascii : ∀ c ∈ (String.ofList cs).toList, c.toNat < 128 := by
    rw [String.toList_ofList]
    intro c hc
    exact (h.forall_mem c hc).1
  rw [bytes_eq_map hascii, String.toList_ofList]
  clear hascii
  induction h with
  | nil => rfl
  | @unreserved c bs cs hc _ ih =>
      have hne : UInt8.ofNat c.toNat ≠ 0x25 := by
        intro heq
        have hback := charOfNat_toNat (lt_of_isUnreserved hc)
        rw [heq] at hback
        obtain rfl : '%' = c := hback
        exact absurd hc (by decide)
      rw [List.map_cons, percentDecode_cons hne, ih]
  | escaped hb hhigh hlow _ ih =>
      rw [List.map_cons, List.map_cons, List.map_cons]
      exact (percentDecode_escape hhigh hlow _).trans (congrArg _ ih)

theorem PercentEncoded.eq_of_isUnreserved {bs : List UInt8} {cs ds : List Char}
    (h : PercentEncoded bs cs) (hbs : bs = ds.map fun c => UInt8.ofNat c.toNat)
    (hds : ∀ c ∈ ds, isUnreserved c = true) : cs = ds := by
  induction h generalizing ds with
  | nil => exact (List.map_eq_nil_iff.mp hbs.symm).symm
  | @unreserved c bs cs hc _ ih =>
      obtain ⟨d, ds, rfl, hd, hrest⟩ := List.map_eq_cons_iff.mp hbs.symm
      obtain ⟨hdd, hds⟩ := List.forall_mem_cons.mp hds
      rw [ih hrest.symm hds, ← charOfNat_toNat (lt_of_isUnreserved hc), ← hd,
        charOfNat_toNat (lt_of_isUnreserved hdd)]
  | @escaped b high low bs cs hb hhigh hlow _ ih =>
      obtain ⟨d, ds, rfl, hd, -⟩ := List.map_eq_cons_iff.mp hbs.symm
      have hdd := hds d List.mem_cons_self
      rw [← hd, charOfNat_toNat (lt_of_isUnreserved hdd), hdd] at hb
      simp at hb

end SmsGateway.Text
