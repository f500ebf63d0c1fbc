import SmsGateway.Proofs.Json.Bounds
import SmsGateway.Proofs.Json.Records
import SmsGateway.Proofs.Number.Arithmetic

namespace SmsGateway.Json

open SmsGateway.Number

theorem isOrdinary_powerOfTen {k : Nat} (hk : k ≤ 308) :
    IsOrdinary (powerOfTen k).toModel.unpack := by
  have hpower : powerOfTen k = Float.ofNat (10 ^ k) := by
    have hsize : ((Nat.toDigits 10 1).length : Int) = 1 := rfl
    rw [powerOfTen, ofDecimal, hsize, if_neg (by omega), if_neg (by omega), if_pos (by omega),
      Nat.one_mul, Int.toNat_natCast]
    rfl
  rw [hpower]
  exact isOrdinary_ofNat_ten_pow hk

theorem isNaN_of_scale? {x y : Float} {e : Int} (hx : x.isNaN = false) (h : scale? x e = some y) :
    y.isNaN = false := by
  fun_induction scale? x e with
  | case1 x e hsmall hzero =>
      obtain rfl := Option.some.inj h
      exact hx
  | case2 x e hsmall hne ih =>
      exact ih (isNaN_float_div hx (isOrdinary_powerOfTen (by omega))) h
  | case3 x e hsmall hneg =>
      obtain rfl := Option.some.inj h
      exact isNaN_float_div hx (isOrdinary_powerOfTen (by omega))
  | case4 => simp at h
  | case5 x e hsmall hneg hgreat z hfinite =>
      obtain rfl := Option.some.inj h
      exact isNaN_float_mul hx (isOrdinary_powerOfTen (by omega))
  | case6 x e hsmall hneg hgreat hzero =>
      obtain rfl := Option.some.inj h
      exact hx
  | case7 => simp at h

theorem isNaN_of_magnitude? {t : Numeral} {x : Float} (h : t.magnitude? = some x) :
    x.isNaN = false := by
  unfold Numeral.magnitude? at h
  dsimp only at h
  split at h
  · exact isNaN_of_scale? (isNaN_ofNat _) h
  · split at h
    · exact isNaN_of_scale? (isNaN_ofNat _) h
    · split at h
      · obtain rfl := Option.some.inj h
        decide
      · simp at h

theorem isNaN_of_value? {t : Numeral} {x : Float} (h : t.value? = some (.real x)) :
    x.isNaN = false := by
  unfold Numeral.value? at h
  dsimp only at h
  split at h
  · simp at h
  · split at h
    · simp at h
    · obtain ⟨y, hy, heq⟩ := Option.map_eq_some_iff.mp h
      obtain rfl := Number.real.inj heq
      split
      · exact isNaN_float_neg (isNaN_of_magnitude? hy)
      · exact isNaN_of_magnitude? hy

/-- Every floating-point number in a document is a number. -/
inductive Document.Numeric : Document → Prop where
  | null : Numeric .null
  | bool (b : Bool) : Numeric (.bool b)
  | num {k : Option Number} (h : ∀ x, k = some (.real x) → x.isNaN = false) : Numeric (.num k)
  | str (s : Option String) : Numeric (.str s)
  | arr {items : List Document} (h : ∀ d ∈ items, Numeric d) : Numeric (.arr items)
  | obj {fields : List (Option String × Document)} (h : ∀ f ∈ fields, Numeric f.2) :
      Numeric (.obj fields)

theorem numeric_of_readScalar {s t : List Char} {d : Document} (h : readScalar s = some (d, t)) :
    d.Numeric := by
  unfold readScalar at h
  split at h
  · obtain ⟨rfl, -⟩ := Prod.mk.inj (Option.some.inj h)
    exact .null
  · obtain ⟨rfl, -⟩ := Prod.mk.inj (Option.some.inj h)
    exact .bool true
  · obtain ⟨rfl, -⟩ := Prod.mk.inj (Option.some.inj h)
    exact .bool false
  · obtain ⟨found, -, heq⟩ := Option.map_eq_some_iff.mp h
    obtain ⟨rfl, -⟩ := Prod.mk.inj heq
    exact .str _
  · obtain ⟨found, -, heq⟩ := Option.map_eq_some_iff.mp h
    obtain ⟨rfl, -⟩ := Prod.mk.inj heq
    exact .num fun x hx => isNaN_of_value? hx

theorem numeric_of_parse {n : Nat} {s : List Char} {d : Document}
    (h : Document.parse n s = some d) : d.Numeric := by
  obtain ⟨t, hread⟩ := exists_of_parse h
  exact readValue_induction (P := fun _ d => d.Numeric) (fun n s d t => numeric_of_readScalar)
    (fun n items => .arr) (fun n fields => .obj) hread

namespace Document.Numeric

variable {d : Document}

theorem of_partialRecord? (hd : d.Numeric) {names : List String} {r : Record}
    (h : d.partialRecord? names = some r) : ∀ x ∈ r, x.2.Numeric := by
  intro x hx
  cases hd with
  | obj hfields => exact hfields _ (mem_of_mem_declaredFields h hx)
  | arr hitems =>
      rw [Document.partialRecord?] at h
      split at h
      · obtain rfl := Option.some.inj h
        exact hitems _ (List.of_mem_zip hx).2
      · simp at h
  | _ => simp [Document.partialRecord?] at h

theorem of_single? (hd : d.Numeric) {x : Number.Single} (h : d.single? = some x) :
    ¬ x.IsNaN := by
  unfold Document.single? at h
  split at h
  · obtain rfl := Option.some.inj h
    exact Single.not_isNaN_ofInt _
  · obtain rfl := Option.some.inj h
    cases hd with
    | num hreal => exact Single.not_isNaN_ofFloat (hreal _ rfl)
  · simp at h

end Document.Numeric

end SmsGateway.Json
