import SmsGateway.Json.Record
import SmsGateway.Proofs.Json.Values

namespace SmsGateway.Json

theorem lookup_map {β γ : Type} (f : β → γ) (name : String) (xs : List (String × β)) :
    (xs.map fun x => (x.1, f x.2)).lookup name = (xs.lookup name).map f := by
  induction xs with
  | nil => rfl
  | cons x xs ih =>
      rw [List.map_cons, List.lookup_cons, List.lookup_cons, ih]
      split <;> rfl

theorem mem_of_lookup {β : Type} {name : String} {b : β} {xs : List (String × β)}
    (h : xs.lookup name = some b) : (name, b) ∈ xs := by
  induction xs with
  | nil => simp at h
  | cons x xs ih =>
      rw [List.lookup_cons] at h
      split at h
      · next heq =>
          obtain rfl := Option.some.inj h
          rw [beq_iff_eq.mp heq]
          exact List.mem_cons_self
      · exact List.mem_cons_of_mem x (ih h)

theorem lookup_eq_none {β : Type} {name : String} {xs : List (String × β)}
    (h : name ∉ xs.map (·.1)) : xs.lookup name = none := by
  cases hlookup : xs.lookup name with
  | none => rfl
  | some b =>
      have hmem : name ∈ xs.map (·.1) := List.mem_map.mpr ⟨_, mem_of_lookup hlookup, rfl⟩
      exact absurd hmem h

theorem lookup_eq_some_iff {β : Type} {name : String} {b : β} {xs : List (String × β)}
    (h : (xs.map (·.1)).Nodup) : xs.lookup name = some b ↔ (name, b) ∈ xs := by
  induction xs with
  | nil => simp
  | cons x xs ih =>
      obtain ⟨hnew, hnodup⟩ := List.nodup_cons.mp h
      obtain ⟨other, a⟩ := x
      rw [List.lookup_cons, List.mem_cons, Prod.mk.injEq]
      split
      · next heq =>
          obtain rfl := beq_iff_eq.mp heq
          have hnot : (name, b) ∉ xs := fun hmem => hnew (List.mem_map.mpr ⟨_, hmem, rfl⟩)
          simp [hnot, eq_comm]
      · next hne => simp [beq_eq_false_iff_ne.mp hne, ih hnodup]

theorem lookup_filter_mem {β : Type} {name : String} {names : List String} (h : name ∈ names)
    (xs : List (String × β)) :
    (xs.filter fun x => x.1 ∈ names).lookup name = xs.lookup name := by
  induction xs with
  | nil => rfl
  | cons x xs ih =>
      rw [List.filter_cons]
      split
      · rw [List.lookup_cons, List.lookup_cons, ih]
      · next hx =>
          have hne : name ≠ x.1 := by
            rintro rfl
            simp [h] at hx
          rw [ih, List.lookup_cons, beq_eq_false_iff_ne.mpr hne]

theorem declaredFields_undeclared {names : List String} {xs : List (String × Document)}
    (h : ∀ x ∈ xs, x.1 ∉ names) :
    declaredFields names (xs.map fun x => (some x.1, x.2)) = some [] := by
  induction xs with
  | nil => rfl
  | cons x xs ih =>
      obtain ⟨hx, hxs⟩ := List.forall_mem_cons.mp h
      simp only [List.map_cons, declaredFields, ih hxs, if_neg hx]

theorem declaredFields_append {names : List String} {found others : List (String × Document)}
    (hfound : ∀ x ∈ found, x.1 ∈ names) (hnodup : (found.map (·.1)).Nodup)
    (hothers : ∀ x ∈ others, x.1 ∉ names) :
    declaredFields names ((found ++ others).map fun x => (some x.1, x.2)) = some found := by
  induction found with
  | nil => exact declaredFields_undeclared hothers
  | cons x found ih =>
      obtain ⟨hx, hrest⟩ := List.forall_mem_cons.mp hfound
      obtain ⟨hnew, hnodup⟩ := List.nodup_cons.mp hnodup
      simp only [List.cons_append, List.map_cons, declaredFields, ih hrest hnodup, if_pos hx,
        lookup_eq_none hnew, Option.isSome_none, Bool.false_eq_true, if_false]

theorem declaredFields_of_nodup {names : List String} {xs : List (String × Document)}
    (h : (xs.map (·.1)).Nodup) :
    declaredFields names (xs.map fun x => (some x.1, x.2)) =
      some (xs.filter fun x => x.1 ∈ names) := by
  induction xs with
  | nil => rfl
  | cons x xs ih =>
      obtain ⟨hnew, hnodup⟩ := List.nodup_cons.mp h
      rw [List.map_cons, declaredFields, ih hnodup, List.filter_cons]
      dsimp only
      by_cases hx : x.1 ∈ names
      · rw [if_pos hx, lookup_filter_mem hx, lookup_eq_none hnew]
        simp [hx]
      · simp [hx]

theorem mem_of_mem_declaredFields {names : List String} {fields : List (Option String × Document)}
    {r : Record} (h : declaredFields names fields = some r) {x : String × Document} (hx : x ∈ r) :
    (some x.1, x.2) ∈ fields := by
  induction fields generalizing r with
  | nil =>
      obtain rfl := Option.some.inj h
      simp at hx
  | cons f fields ih =>
      obtain ⟨name, d⟩ := f
      cases name with
      | none => simp [declaredFields] at h
      | some name =>
          simp only [declaredFields] at h
          split at h
          · simp at h
          · next found hfound =>
              split at h
              · split at h
                · simp at h
                · obtain rfl := Option.some.inj h
                  rcases List.mem_cons.mp hx with rfl | hx
                  · exact List.mem_cons_self
                  · exact List.mem_cons_of_mem _ (ih hfound hx)
              · obtain rfl := Option.some.inj h
                exact List.mem_cons_of_mem _ (ih hfound hx)

variable {α : Type} {r : Record} {name : String} {decode : Document → Option α}

theorem Record.optional_of_lookup {encode : α → Document} {a : Option α}
    (hlookup : r.lookup name = a.map encode)
    (hdecode : ∀ x ∈ a, encode x ≠ .null ∧ decode (encode x) = some x) :
    r.optional name decode = some a := by
  cases a with
  | none => rw [Record.optional, hlookup, Option.map_none]
  | some x =>
      obtain ⟨hne, hx⟩ := hdecode x rfl
      rw [Record.optional, hlookup, Option.map_some]
      split
      · next heq => simp at heq
      · next heq => exact absurd (Option.some.inj heq) hne
      · next heq =>
          obtain rfl := Option.some.inj heq
          rw [hx]
          rfl

theorem Record.lookup_of_optional {a : α} (h : r.optional name decode = some (some a)) :
    ∃ d, d ≠ .null ∧ r.lookup name = some d ∧ decode d = some a := by
  unfold Record.optional at h
  split at h
  · simp at h
  · simp at h
  · next d hnull hlookup =>
      obtain ⟨b, hdecode, hb⟩ := Option.map_eq_some_iff.mp h
      obtain rfl := Option.some.inj hb
      refine ⟨d, ?_, hlookup, hdecode⟩
      rintro rfl
      exact hnull rfl

/-- The fields of an object as they are found in it. -/
def Record.written (fields : List (String × Json)) : Record :=
  fields.map fun x => (x.1, .ofJson x.2)

variable {fields : List (String × Json)}

theorem Record.lookup_written (fields : List (String × Json)) (name : String) :
    (written fields).lookup name = (fields.lookup name).map .ofJson :=
  lookup_map Document.ofJson name fields

theorem Record.keys_written (fields : List (String × Json)) :
    (written fields).map (·.1) = fields.map (·.1) := by
  rw [written, List.map_map]
  rfl

theorem Document.ofJson_obj (fields : List (String × Json)) :
    Document.ofJson (.obj fields) =
      .obj ((Record.written fields).map fun x => (some x.1, x.2)) := by
  rw [Document.ofJson, ofFields_eq_map, Record.written, List.map_map]
  rfl

theorem Document.record?_written {names : List String} (hdeclared : ∀ x ∈ fields, x.1 ∈ names)
    (hnodup : (fields.map (·.1)).Nodup) :
    (Document.ofJson (.obj fields)).record? names = some (Record.written fields) := by
  have hkeys : ((Record.written fields).map (·.1)).Nodup := by
    rw [Record.keys_written]
    exact hnodup
  have hall : (Record.written fields).filter (fun x => x.1 ∈ names) = Record.written fields := by
    refine List.filter_eq_self.mpr fun f hf => ?_
    obtain ⟨x, hx, rfl⟩ := List.mem_map.mp hf
    exact decide_eq_true (hdeclared x hx)
  rw [ofJson_obj, Document.record?, declaredFields_of_nodup hkeys, hall]

theorem Document.exists_partialRecord?_written {fields : List (String × Json)}
    (h : (fields.map (·.1)).Nodup) (names : List String) :
    ∃ r, (Document.ofJson (.obj fields)).partialRecord? names = some r ∧
      ∀ name ∈ names, r.lookup name = (fields.lookup name).map .ofJson := by
  refine ⟨(Record.written fields).filter fun x => x.1 ∈ names, ?_, ?_⟩
  · rw [ofJson_obj, Document.partialRecord?]
    refine declaredFields_of_nodup ?_
    rw [Record.keys_written]
    exact h
  · intro name hname
    rw [lookup_filter_mem hname, Record.lookup_written]

theorem Document.nat?_written {bits n : Nat} (h : n < Nat.pow 2 bits) :
    (Document.ofJson (.int n)).nat? bits = some n := by
  have hbound : (0 : Int) ≤ n ∧ (n : Int) ≤ Nat.pow 2 bits - 1 := by omega
  change (Document.int? 0 (Nat.pow 2 bits - 1) (.num (some (.int n)))).map Int.toNat = _
  rw [Document.int?, if_pos hbound]
  rfl

theorem Record.required_written {v : Json} {a : α} (h : fields.lookup name = some v)
    (hdecode : decode (.ofJson v) = some a) :
    (written fields).required name decode = some a := by
  rw [required, lookup_written, h]
  exact hdecode

theorem Document.ofJson_ne_null {v : Json} (h : v ≠ .null) : Document.ofJson v ≠ .null := by
  cases v with
  | null => exact absurd rfl h
  | _ => simp [Document.ofJson]

theorem Record.optional_written {encode : α → Json} {value : Option α}
    (h : fields.lookup name = value.map encode)
    (hdecode : ∀ a ∈ value, encode a ≠ .null ∧ decode (.ofJson (encode a)) = some a) :
    (written fields).optional name decode = some value := by
  have hlookup : (written fields).lookup name = value.map fun a => .ofJson (encode a) := by
    rw [lookup_written, h, Option.map_map]
    rfl
  refine optional_of_lookup hlookup ?_
  intro a ha
  exact ⟨Document.ofJson_ne_null (hdecode a ha).1, (hdecode a ha).2⟩

theorem Record.optional_written_orNull {encode : α → Json} {value : Option α}
    (h : fields.lookup name = some ((value.map encode).getD .null))
    (hdecode : ∀ a ∈ value, encode a ≠ .null ∧ decode (.ofJson (encode a)) = some a) :
    (written fields).optional name decode = some value := by
  cases value with
  | none =>
      rw [optional, lookup_written, h]
      rfl
  | some a =>
      have hset : fields.lookup name = (some a).map encode := h
      exact optional_written hset hdecode

end SmsGateway.Json
