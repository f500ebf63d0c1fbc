import SmsGateway.NameTable

namespace SmsGateway.NameTable

variable {α : Type} {name : String} {value : α} {t : NameTable α}

theorem mem_insert {x : String × α} (h : x ∈ insert name value t) :
    x = (name, value) ∨ x ∈ t := by
  induction t with
  | nil =>
      rw [insert, List.mem_singleton] at h
      exact .inl h
  | cons y rest ih =>
      rw [insert] at h
      split at h
      · simpa using h
      · split at h
        · rcases List.mem_cons.mp h with h | h
          · exact .inl h
          · exact .inr (List.mem_cons_of_mem y h)
        · rcases List.mem_cons.mp h with rfl | h
          · exact .inr List.mem_cons_self
          · rcases ih h with h | h
            · exact .inl h
            · exact .inr (List.mem_cons_of_mem y h)

theorem lt_of_not_lt_of_ne {a b : String} (hlt : ¬ a < b) (hne : a ≠ b) : b < a := by
  apply Std.lt_of_le_of_ne (String.not_lt.mp hlt)
  exact fun h => hne h.symm

theorem ascending_insert (h : Ascending t) : Ascending (insert name value t) := by
  induction t with
  | nil => exact List.pairwise_singleton _ _
  | cons y rest ih =>
      obtain ⟨hfirst, hrest⟩ := List.pairwise_cons.mp h
      rw [insert]
      split
      · next hlt =>
          refine List.pairwise_cons.mpr ⟨?_, h⟩
          rintro x hx
          rcases List.mem_cons.mp hx with rfl | hx
          · exact hlt
          · exact String.lt_trans hlt (hfirst x hx)
      · next hlt =>
          split
          · next heq => exact List.pairwise_cons.mpr ⟨heq ▸ hfirst, hrest⟩
          · next hne =>
              refine List.pairwise_cons.mpr ⟨?_, ih hrest⟩
              rintro x hx
              rcases mem_insert hx with rfl | hx
              · exact lt_of_not_lt_of_ne hlt hne
              · exact hfirst x hx

theorem insert_of_forall_lt (h : ∀ x ∈ t, x.1 < name) :
    insert name value t = t ++ [(name, value)] := by
  induction t with
  | nil => rfl
  | cons y rest ih =>
      obtain ⟨hfirst, hrest⟩ := List.forall_mem_cons.mp h
      rw [insert, if_neg (String.lt_asymm hfirst), if_neg, ih hrest]
      · rfl
      · rintro rfl
        exact String.lt_irrefl _ hfirst

theorem ascending_foldl_insert (entries : List (String × α)) (h : Ascending t) :
    Ascending (entries.foldl (fun t e => insert e.1 e.2 t) t) := by
  induction entries generalizing t with
  | nil => exact h
  | cons e rest ih => exact ih (ascending_insert h)

theorem ascending_ofEntries (entries : List (String × α)) : Ascending (ofEntries entries) :=
  ascending_foldl_insert entries List.Pairwise.nil

theorem mem_of_mem_foldl_insert {entries : List (String × α)} {x : String × α}
    (h : x ∈ entries.foldl (fun t e => insert e.1 e.2 t) t) : x ∈ entries ∨ x ∈ t := by
  induction entries generalizing t with
  | nil => exact .inr h
  | cons e rest ih =>
      rcases ih h with h | h
      · exact .inl (List.mem_cons_of_mem e h)
      · rcases mem_insert h with rfl | h
        · exact .inl List.mem_cons_self
        · exact .inr h

theorem mem_of_mem_ofEntries {entries : List (String × α)} {x : String × α}
    (h : x ∈ ofEntries entries) : x ∈ entries := by
  rcases mem_of_mem_foldl_insert h with h | h
  · exact h
  · simp at h

theorem foldl_insert_eq_append {entries : List (String × α)} (h : Ascending (t ++ entries)) :
    entries.foldl (fun t e => insert e.1 e.2 t) t = t ++ entries := by
  induction entries generalizing t with
  | nil => simp
  | cons e rest ih =>
      have hlast : ∀ x ∈ t, x.1 < e.1 := by
        intro x hx
        exact (List.pairwise_append.mp h).2.2 x hx e List.mem_cons_self
      rw [List.foldl_cons, insert_of_forall_lt hlast, ih]
      · simp
      · simpa using h

theorem ofEntries_eq_self (h : Ascending t) : ofEntries t = t :=
  foldl_insert_eq_append (t := []) h

theorem Ascending.nodup (h : Ascending t) : (t.map (·.1)).Nodup := by
  refine List.pairwise_map.mpr (h.imp ?_)
  rintro a b hlt heq
  exact String.lt_irrefl a.1 (heq ▸ hlt)

theorem lookup_cons_eq_ite (x : String × α) (other : String) :
    (x :: t).lookup other = if other = x.1 then some x.2 else t.lookup other := by
  rw [List.lookup_cons]
  split
  · next h => rw [if_pos (beq_iff_eq.mp h)]
  · next h => rw [if_neg (beq_eq_false_iff_ne.mp h)]

theorem lookup_insert (other : String) :
    (insert name value t).lookup other = if other = name then some value else t.lookup other := by
  induction t with
  | nil => rw [insert, lookup_cons_eq_ite]
  | cons y rest ih =>
      rw [insert]
      split
      · rw [lookup_cons_eq_ite]
      · split
        · next heq =>
            rw [lookup_cons_eq_ite, lookup_cons_eq_ite, ← heq]
            split <;> rfl
        · next hne =>
            rw [lookup_cons_eq_ite, ih, lookup_cons_eq_ite]
            split
            · next hother => rw [if_neg fun h => hne (h.symm.trans hother)]
            · rfl

theorem lookup_foldl_insert {entries : List (String × α)} (h : (entries.map (·.1)).Nodup)
    (other : String) :
    (entries.foldl (fun t e => insert e.1 e.2 t) t).lookup other =
      (entries.lookup other).or (t.lookup other) := by
  induction entries generalizing t with
  | nil => rfl
  | cons e rest ih =>
      obtain ⟨hnew, hrest⟩ := List.nodup_cons.mp h
      rw [List.foldl_cons, ih hrest, lookup_insert, lookup_cons_eq_ite]
      split
      · next heq =>
          have hnone : rest.lookup other = none := by
            apply List.lookup_eq_none_iff.mpr
            intro x hx
            rw [bne_iff_ne, heq]
            exact fun hname => hnew (List.mem_map.mpr ⟨x, hx, hname.symm⟩)
          rw [hnone]
          rfl
      · rfl

theorem lookup_ofEntries {entries : List (String × α)} (h : (entries.map (·.1)).Nodup)
    (other : String) : (ofEntries entries).lookup other = entries.lookup other := by
  rw [ofEntries, lookup_foldl_insert h]
  simp

end SmsGateway.NameTable
