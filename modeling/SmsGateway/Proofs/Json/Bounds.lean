import SmsGateway.Proofs.Json.Values

namespace SmsGateway.Json

/-- The documents that a reader of some depth may give. -/
inductive Document.Fits : Nat → Document → Prop where
  | null {n : Nat} : Fits n .null
  | bool {n : Nat} (b : Bool) : Fits n (.bool b)
  | num {n : Nat} {k : Option Number} (h : ∀ m ∈ k, m.InRange) : Fits n (.num k)
  | str {n : Nat} (s : Option String) : Fits n (.str s)
  | arr {n : Nat} {items : List Document} (h : ∀ d ∈ items, Fits n d) : Fits (n + 1) (.arr items)
  | obj {n : Nat} {fields : List (Option String × Document)} (h : ∀ f ∈ fields, Fits n f.2) :
      Fits (n + 1) (.obj fields)

/-- Every number in a document denotes an integer that fits 64 bits. -/
inductive Document.Integral : Document → Prop where
  | null : Integral .null
  | bool (b : Bool) : Integral (.bool b)
  | int {n : Int} (hn : (Number.int n).InRange) : Integral (.num (some (.int n)))
  | str (s : Option String) : Integral (.str s)
  | arr {items : List Document} (h : ∀ d ∈ items, Integral d) : Integral (.arr items)
  | obj {fields : List (Option String × Document)} (h : ∀ f ∈ fields, Integral f.2) :
      Integral (.obj fields)

section Items

variable {α : Type} {P : α → Prop} {close : Char} {item : List Char → Option (α × List Char)}

theorem forall_of_readTail (shrinks : Shrinks item) (hitem : ∀ s a t, item s = some (a, t) → P a)
    {s t : List Char} {xs : List α} (h : readTail close item shrinks s = some (xs, t)) :
    ∀ x ∈ xs, P x := by
  induction hn : s.length using Nat.strongRecOn generalizing s xs with
  | ind n ih =>
      have hle := skipSpace_length_le s
      unfold readTail at h
      split at h
      · next c rest hs =>
          rw [hs, List.length_cons] at hle
          split at h
          · obtain ⟨rfl, -⟩ := Prod.mk.inj (Option.some.inj h)
            simp
          · split at h
            · split at h
              · simp at h
              · next x rest' hread =>
                  have hlt := shrinks _ _ _ hread
                  split at h
                  · simp at h
                  · next hmore =>
                      obtain ⟨rfl, rfl⟩ := Prod.mk.inj (Option.some.inj h)
                      refine List.forall_mem_cons.mpr ⟨hitem _ _ _ hread, ?_⟩
                      exact ih rest'.length (by omega) hmore rfl
            · simp at h
      · simp at h

theorem forall_of_readItems (shrinks : Shrinks item)
    (hitem : ∀ s a t, item s = some (a, t) → P a) {s t : List Char} {xs : List α}
    (h : readItems close item shrinks s = some (xs, t)) : ∀ x ∈ xs, P x := by
  unfold readItems at h
  split at h
  · simp at h
  · split at h
    · obtain ⟨rfl, -⟩ := Prod.mk.inj (Option.some.inj h)
      simp
    · split at h
      · simp at h
      · next hread =>
          split at h
          · simp at h
          · next hmore =>
              obtain ⟨rfl, rfl⟩ := Prod.mk.inj (Option.some.inj h)
              refine List.forall_mem_cons.mpr ⟨hitem _ _ _ hread, ?_⟩
              exact forall_of_readTail shrinks hitem hmore

theorem of_readMember (hitem : ∀ s a t, item s = some (a, t) → P a) {s t : List Char}
    {f : Option String × α} (h : readMember item s = some (f, t)) : P f.2 := by
  unfold readMember at h
  split at h
  · split at h
    · simp at h
    · split at h
      · split at h
        · simp at h
        · next hread =>
            obtain ⟨rfl, rfl⟩ := Prod.mk.inj (Option.some.inj h)
            exact hitem _ _ _ hread
      · simp at h
  · simp at h

end Items

theorem inRange_of_value? {t : Numeral} {k : Number} (h : t.value? = some k) : k.InRange := by
  unfold Numeral.value? at h
  dsimp only at h
  split at h
  · next hbound =>
      obtain rfl := Option.some.inj h
      simp only [Bool.and_eq_true, decide_eq_true_eq] at hbound
      constructor <;> omega
  · split at h
    · next hbound =>
        obtain rfl := Option.some.inj h
        simp only [Bool.and_eq_true, decide_eq_true_eq] at hbound
        constructor <;> omega
    · obtain ⟨x, -, rfl⟩ := Option.map_eq_some_iff.mp h
      exact trivial

theorem fits_of_readScalar {n : Nat} {s t : List Char} {d : Document}
    (h : readScalar s = some (d, t)) : d.Fits n := by
  unfold readScalar at h
  split at h
  · obtain ⟨rfl, -⟩ := Prod.mk.inj (Option.some.inj h)
    exact .null
  · obtain ⟨rfl, -⟩ := Prod.mk.inj (Option.some.inj h)
    exact .bool true
  · obtain ⟨rfl, -⟩ := Prod.mk.inj (Option.some.inj h)
    exact .bool false
  · obtain ⟨found, -, heq⟩ := Option.map_eq_some_iff.mp h
    obtain ⟨rfl, -⟩ := Prod.mk.inj heq
    exact .str _
  · obtain ⟨found, -, heq⟩ := Option.map_eq_some_iff.mp h
    obtain ⟨rfl, -⟩ := Prod.mk.inj heq
    exact .num fun m hm => inRange_of_value? hm

theorem readValue_induction {P : Nat → Document → Prop}
    (hscalar : ∀ n s d t, readScalar s = some (d, t) → P n d)
    (harr : ∀ n items, (∀ d ∈ items, P n d) → P (n + 1) (.arr items))
    (hobj : ∀ n fields, (∀ f ∈ fields, P n f.2) → P (n + 1) (.obj fields)) {n : Nat}
    {s t : List Char} {d : Document} (h : readValue n s = some (d, t)) : P n d := by
  induction n generalizing s t d with
  | zero =>
      change readValueBy readNothing readNothing s = _ at h
      unfold readValueBy at h
      split at h
      · simp [readNothing] at h
      · simp [readNothing] at h
      · exact hscalar _ _ _ _ h
  | succ n ih =>
      change readValueBy (readArray (readValue n) (valueReader n).property)
        (readObject (readValue n) (valueReader n).property) s = _ at h
      unfold readValueBy at h
      split at h
      · obtain ⟨found, hread, heq⟩ := Option.map_eq_some_iff.mp h
        obtain ⟨rfl, -⟩ := Prod.mk.inj heq
        exact harr _ _ (forall_of_readItems _ (fun s d t => ih) hread)
      · obtain ⟨found, hread, heq⟩ := Option.map_eq_some_iff.mp h
        obtain ⟨rfl, -⟩ := Prod.mk.inj heq
        exact hobj _ _ (forall_of_readItems _ (fun s f t => of_readMember (fun s d t => ih)) hread)
      · exact hscalar _ _ _ _ h

theorem exists_of_parse {n : Nat} {s : List Char} {d : Document}
    (h : Document.parse n s = some d) : ∃ t, readValue n s = some (d, t) := by
  unfold Document.parse at h
  split at h
  · next rest hread =>
      split at h
      · obtain rfl := Option.some.inj h
        exact ⟨rest, hread⟩
      · simp at h
  · simp at h

theorem fits_of_parse {n : Nat} {s : List Char} {d : Document}
    (h : Document.parse n s = some d) : d.Fits n := by
  obtain ⟨t, hread⟩ := exists_of_parse h
  exact readValue_induction (P := fun n d => d.Fits n) (fun n s d t => fits_of_readScalar)
    (fun n items => .arr) (fun n fields => .obj) hread

theorem exists_of_itemValues? {items : List Document} {vs : List Json}
    (h : itemValues? items = some vs) : ∀ v ∈ vs, ∃ d ∈ items, d.value? = some v := by
  induction items generalizing vs with
  | nil =>
      obtain rfl := Option.some.inj h
      simp
  | cons d rest ih =>
      simp only [itemValues?, bind, pure, Option.bind_eq_some_iff, Option.some.injEq] at h
      obtain ⟨v, hv, more, hmore, rfl⟩ := h
      refine List.forall_mem_cons.mpr ⟨⟨d, List.mem_cons_self, hv⟩, ?_⟩
      intro w hw
      obtain ⟨d', hd', hvalue⟩ := ih hmore w hw
      exact ⟨d', List.mem_cons_of_mem d hd', hvalue⟩

theorem exists_of_fieldValues? {fields : List (Option String × Document)}
    {es : List (String × Json)} (h : fieldValues? fields = some es) :
    ∀ e ∈ es, ∃ f ∈ fields, f.2.value? = some e.2 := by
  induction fields generalizing es with
  | nil =>
      obtain rfl := Option.some.inj h
      simp
  | cons f rest ih =>
      simp only [fieldValues?, bind, pure, Option.bind_eq_some_iff, Option.some.injEq] at h
      obtain ⟨name, -, v, hv, more, hmore, rfl⟩ := h
      refine List.forall_mem_cons.mpr ⟨⟨f, List.mem_cons_self, hv⟩, ?_⟩
      intro e he
      obtain ⟨f', hf', hvalue⟩ := ih hmore e he
      exact ⟨f', List.mem_cons_of_mem f hf', hvalue⟩

theorem exists_of_value?_obj {fields : List (Option String × Document)} {v : Json}
    (h : (Document.obj fields).value? = some v) :
    ∃ t : NameTable Json, v = .obj t ∧ NameTable.Ascending t ∧
      ∀ e ∈ t, ∃ f ∈ fields, f.2.value? = some e.2 := by
  obtain ⟨es, hes, rfl⟩ := Option.map_eq_some_iff.mp h
  refine ⟨_, rfl, NameTable.ascending_ofEntries es, ?_⟩
  intro e he
  exact exists_of_fieldValues? hes e (NameTable.mem_of_mem_ofEntries he)

theorem Document.Fits.of_value? {n : Nat} {d : Document} (h : d.Fits n) {v : Json}
    (hv : d.value? = some v) : v.Canonical ∧ v.depth ≤ n := by
  induction h generalizing v with
  | null | bool | str =>
      simp only [Document.value?, Option.some.injEq, Option.map_eq_some_iff] at hv
      first
        | subst hv
        | obtain ⟨s, -, rfl⟩ := hv
      exact ⟨trivial, Nat.zero_le _⟩
  | num hrange =>
      obtain ⟨m, hm, rfl⟩ := Option.map_eq_some_iff.mp hv
      exact ⟨hrange m hm, Nat.zero_le _⟩
  | arr hitems ih =>
      obtain ⟨vs, hvs, rfl⟩ := Option.map_eq_some_iff.mp hv
      have hparts := exists_of_itemValues? hvs
      rw [Canonical, canonicalItems_iff, depth, Nat.add_le_add_iff_right, itemsDepth_le_iff]
      constructor
      · intro w hw
        obtain ⟨d, hd, hvalue⟩ := hparts w hw
        exact (ih d hd hvalue).1
      · intro w hw
        obtain ⟨d, hd, hvalue⟩ := hparts w hw
        exact (ih d hd hvalue).2
  | obj hfields ih =>
      obtain ⟨t, rfl, hascending, hparts⟩ := exists_of_value?_obj hv
      rw [Canonical, canonicalFields_iff, depth, Nat.add_le_add_iff_right, fieldsDepth_le_iff]
      refine ⟨⟨hascending, ?_⟩, ?_⟩
      · intro e he
        obtain ⟨f, hf, hvalue⟩ := hparts e he
        exact (ih f hf hvalue).1
      · intro e he
        obtain ⟨f, hf, hvalue⟩ := hparts e he
        exact (ih f hf hvalue).2

theorem Document.Integral.of_value? {d : Document} (h : d.Integral) {v : Json}
    (hv : d.value? = some v) : v.Integral := by
  induction h generalizing v with
  | null =>
      obtain rfl := Option.some.inj hv
      exact .null
  | bool b =>
      obtain rfl := Option.some.inj hv
      exact .bool b
  | int hn =>
      obtain rfl := Option.some.inj hv
      exact .int hn
  | str =>
      obtain ⟨s, -, rfl⟩ := Option.map_eq_some_iff.mp hv
      exact .str s
  | arr hitems ih =>
      obtain ⟨vs, hvs, rfl⟩ := Option.map_eq_some_iff.mp hv
      refine .arr ?_
      intro w hw
      obtain ⟨d, hd, hvalue⟩ := exists_of_itemValues? hvs w hw
      exact ih d hd hvalue
  | obj hfields ih =>
      obtain ⟨t, rfl, -, hparts⟩ := exists_of_value?_obj hv
      refine .obj ?_
      intro e he
      obtain ⟨f, hf, hvalue⟩ := hparts e he
      exact ih f hf hvalue

theorem Integral.document {v : Json} (h : v.Integral) : (Document.ofJson v).Integral := by
  induction h with
  | null => exact .null
  | bool b => exact .bool b
  | int hn => exact .int hn
  | str s => exact .str _
  | arr hitems ih =>
      rw [Document.ofJson, ofItems_eq_map]
      refine .arr ?_
      intro d hd
      obtain ⟨v, hv, rfl⟩ := List.mem_map.mp hd
      exact ih v hv
  | obj hfields ih =>
      rw [Document.ofJson, ofFields_eq_map]
      refine .obj ?_
      intro f hf
      obtain ⟨x, hx, rfl⟩ := List.mem_map.mp hf
      exact ih x hx

end SmsGateway.Json
