import SmsGateway.Json.Document
import SmsGateway.Proofs.NameTable

namespace SmsGateway.Json

/-- Every number in a value is an integer that fits 64 bits. -/
inductive Integral : Json → Prop where
  | null : Integral .null
  | bool (b : Bool) : Integral (.bool b)
  | int {n : Int} (hn : (Number.int n).InRange) : Integral (.num (.int n))
  | str (s : String) : Integral (.str s)
  | arr {items : List Json} (h : ∀ v ∈ items, Integral v) : Integral (.arr items)
  | obj {fields : List (String × Json)} (h : ∀ f ∈ fields, Integral f.2) : Integral (.obj fields)

theorem canonicalItems_iff {items : List Json} :
    CanonicalItems items ↔ ∀ v ∈ items, v.Canonical := by
  induction items with
  | nil => simp [CanonicalItems]
  | cons v rest ih => rw [CanonicalItems, List.forall_mem_cons, ih]

theorem canonicalFields_iff {fields : List (String × Json)} :
    CanonicalFields fields ↔ ∀ f ∈ fields, f.2.Canonical := by
  induction fields with
  | nil => simp [CanonicalFields]
  | cons f rest ih => rw [CanonicalFields, List.forall_mem_cons, ih]

theorem itemsDepth_le_iff {items : List Json} {n : Nat} :
    itemsDepth items ≤ n ↔ ∀ v ∈ items, v.depth ≤ n := by
  induction items with
  | nil => simp [itemsDepth]
  | cons v rest ih => rw [itemsDepth, List.forall_mem_cons, ← ih, Nat.max_le]

theorem fieldsDepth_le_iff {fields : List (String × Json)} {n : Nat} :
    fieldsDepth fields ≤ n ↔ ∀ f ∈ fields, f.2.depth ≤ n := by
  induction fields with
  | nil => simp [fieldsDepth]
  | cons f rest ih => rw [fieldsDepth, List.forall_mem_cons, ← ih, Nat.max_le]

theorem ofItems_eq_map (items : List Json) : ofItems items = items.map .ofJson := by
  induction items with
  | nil => rfl
  | cons v rest ih => rw [ofItems, List.map_cons, ih]

theorem ofFields_eq_map (fields : List (String × Json)) :
    ofFields fields = fields.map fun f => (some f.1, .ofJson f.2) := by
  induction fields with
  | nil => rfl
  | cons f rest ih => rw [ofFields, List.map_cons, ih]

theorem itemValues?_map {items : List Json} (h : ∀ v ∈ items, (Document.ofJson v).value? = some v) :
    itemValues? (items.map .ofJson) = some items := by
  induction items with
  | nil => rfl
  | cons v rest ih =>
      obtain ⟨hfirst, hrest⟩ := List.forall_mem_cons.mp h
      rw [List.map_cons, itemValues?, hfirst, ih hrest]
      rfl

theorem fieldValues?_map {fields : List (String × Json)}
    (h : ∀ f ∈ fields, (Document.ofJson f.2).value? = some f.2) :
    fieldValues? (fields.map fun f => (some f.1, .ofJson f.2)) = some fields := by
  induction fields with
  | nil => rfl
  | cons f rest ih =>
      obtain ⟨hfirst, hrest⟩ := List.forall_mem_cons.mp h
      rw [List.map_cons, fieldValues?, hfirst, ih hrest]
      rfl

theorem value?_ofJson {v : Json} (h : v.Canonical) : (Document.ofJson v).value? = some v := by
  induction hn : v.depth using Nat.strongRecOn generalizing v with
  | ind n ih =>
      cases v with
      | arr items =>
          rw [Canonical, canonicalItems_iff] at h
          have hitems : ∀ v ∈ items, (Document.ofJson v).value? = some v := by
            intro v hv
            refine ih v.depth ?_ (h v hv) rfl
            have := itemsDepth_le_iff.mp (Nat.le_refl _) v hv
            rw [depth] at hn
            omega
          rw [Document.ofJson, ofItems_eq_map, Document.value?, itemValues?_map hitems]
          rfl
      | obj fields =>
          rw [Canonical, canonicalFields_iff] at h
          have hfields : ∀ f ∈ fields, (Document.ofJson f.2).value? = some f.2 := by
            intro f hf
            refine ih f.2.depth ?_ (h.2 f hf) rfl
            have := fieldsDepth_le_iff.mp (Nat.le_refl _) f hf
            rw [depth] at hn
            omega
          rw [Document.ofJson, ofFields_eq_map, Document.value?, fieldValues?_map hfields,
            Option.map_some, NameTable.ofEntries_eq_self h.1]
      | _ => rfl

end SmsGateway.Json
