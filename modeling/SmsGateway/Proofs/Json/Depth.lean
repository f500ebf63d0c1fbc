import SmsGateway.Proofs.Json.Bounds
import SmsGateway.Proofs.Json.Reading

namespace SmsGateway.Json

/-- The second reader reads whatever the first one reads, and as the same. -/
def Extends {α : Type} (read read' : List Char → Option (α × List Char)) : Prop :=
  ∀ s r, read s = some r → read' s = some r

section Items

variable {α : Type} {close : Char} {item item' : List Char → Option (α × List Char)}

theorem readTail_eq (shrinks : Shrinks item) (s : List Char) :
    readTail close item shrinks s =
      match skipSpace s with
      | [] => none
      | c :: rest =>
          if c = close then some ([], rest)
          else if c = ',' then
            match item rest with
            | none => none
            | some (x, rest') =>
                (readTail close item shrinks rest').map fun (xs, rest'') => (x :: xs, rest'')
          else none := by
  rw [readTail]
  split
  · next c rest hs =>
      rw [hs]
      dsimp only
      split
      · rfl
      · split
        · split
          · next hread => rw [hread]
          · next x rest' hread =>
              rw [hread]
              dsimp only
              cases readTail close item shrinks rest' <;> rfl
        · rfl
  · next hs => rw [hs]

theorem Extends.readTail (h : Extends item item') (shrinks : Shrinks item)
    (shrinks' : Shrinks item') :
    Extends (readTail close item shrinks) (readTail close item' shrinks') := by
  intro s
  induction hn : s.length using Nat.strongRecOn generalizing s with
  | ind n ih =>
      intro r hr
      have hle := skipSpace_length_le s
      rw [readTail_eq] at hr ⊢
      split at hr
      · simp at hr
      · next c rest hs =>
          rw [hs, List.length_cons] at hle
          dsimp only
          split at hr
          · next hclose => rwa [if_pos hclose]
          · next hclose =>
              rw [if_neg hclose]
              split at hr
              · next hcomma =>
                  rw [if_pos hcomma]
                  split at hr
                  · simp at hr
                  · next x rest' hread =>
                      have hlt := shrinks _ _ _ hread
                      obtain ⟨more, hmore, rfl⟩ := Option.map_eq_some_iff.mp hr
                      rw [h _ _ hread]
                      dsimp only
                      rw [ih rest'.length (by omega) rest' rfl more hmore]
                      rfl
              · simp at hr

theorem Extends.readItems (h : Extends item item') (shrinks : Shrinks item)
    (shrinks' : Shrinks item') :
    Extends (readItems close item shrinks) (readItems close item' shrinks') := by
  intro s r hr
  rw [Json.readItems] at hr ⊢
  split at hr
  · simp at hr
  · split at hr
    · next hclose => rwa [if_pos hclose]
    · next hclose =>
        rw [if_neg hclose]
        split at hr
        · simp at hr
        · next hread =>
            rw [h _ _ hread]
            dsimp only
            split at hr
            · simp at hr
            · next hmore =>
                rw [h.readTail shrinks shrinks' _ _ hmore]
                exact hr

theorem Extends.readMember (h : Extends item item') :
    Extends (readMember item) (readMember item') := by
  intro s r hr
  unfold Json.readMember at hr ⊢
  split at hr
  · split at hr
    · simp at hr
    · split at hr
      · split at hr
        · simp at hr
        · next hread =>
            rw [h _ _ hread]
            exact hr
      · simp at hr
  · simp at hr

end Items

variable {item item' items items' fields fields' : List Char → Option (Document × List Char)}

theorem Extends.readArray (h : Extends item item') (shrinks : Shrinks item)
    (shrinks' : Shrinks item') : Extends (readArray item shrinks) (readArray item' shrinks') := by
  intro s r hr
  obtain ⟨found, hfound, rfl⟩ := Option.map_eq_some_iff.mp hr
  rw [Json.readArray, h.readItems shrinks shrinks' _ _ hfound]
  rfl

theorem Extends.readObject (h : Extends item item') (shrinks : Shrinks item)
    (shrinks' : Shrinks item') :
    Extends (readObject item shrinks) (readObject item' shrinks') := by
  intro s r hr
  obtain ⟨found, hfound, rfl⟩ := Option.map_eq_some_iff.mp hr
  rw [Json.readObject, h.readMember.readItems _ (shrinks_readMember shrinks') _ _ hfound]
  rfl

theorem Extends.readValueBy (hitems : Extends items items') (hfields : Extends fields fields') :
    Extends (readValueBy items fields) (readValueBy items' fields') := by
  intro s r hr
  unfold Json.readValueBy at hr ⊢
  split at hr
  · exact hitems _ _ hr
  · exact hfields _ _ hr
  · exact hr

theorem extends_readNothing : Extends readNothing item := by
  intro s r hr
  simp [readNothing] at hr

theorem extends_readValue_succ (n : Nat) : Extends (readValue n) (readValue (n + 1)) := by
  induction n with
  | zero => exact extends_readNothing.readValueBy extends_readNothing
  | succ n ih =>
      rw [readValue_succ, readValue_succ]
      apply Extends.readValueBy
      · exact ih.readArray _ _
      · exact ih.readObject _ _

theorem extends_readValue {n m : Nat} (h : n ≤ m) : Extends (readValue n) (readValue m) := by
  induction h with
  | refl => exact fun _ _ => id
  | step _ ih => exact fun s r hr => extends_readValue_succ _ s r (ih s r hr)

theorem parse_of_le {n m : Nat} (h : n ≤ m) {s : List Char} {d : Document}
    (hparse : Document.parse n s = some d) : Document.parse m s = some d := by
  unfold Document.parse at hparse ⊢
  split at hparse
  · next hread =>
      rw [extends_readValue h _ _ hread]
      exact hparse
  · simp at hparse

theorem depth_le_of_fits {v : Json} {n : Nat} (h : (Document.ofJson v).Fits n) : v.depth ≤ n := by
  induction n generalizing v with
  | zero =>
      cases v with
      | arr items => rw [Document.ofJson] at h; cases h
      | obj fields => rw [Document.ofJson] at h; cases h
      | _ => exact Nat.le_refl 0
  | succ n ih =>
      cases v with
      | arr items =>
          rw [Document.ofJson, ofItems_eq_map] at h
          rw [depth, Nat.add_le_add_iff_right, itemsDepth_le_iff]
          intro v hv
          cases h with
          | arr hitems => exact ih (hitems _ (List.mem_map_of_mem hv))
      | obj fields =>
          rw [Document.ofJson, ofFields_eq_map] at h
          rw [depth, Nat.add_le_add_iff_right, fieldsDepth_le_iff]
          intro f hf
          cases h with
          | obj hfields => exact ih (hfields _ (List.mem_map_of_mem hf))
      | _ => exact Nat.zero_le _

theorem parse_chars_eq_some_iff {v : Json} (h : v.Integral) {n : Nat} {d : Document} :
    Document.parse n v.chars = some d ↔ v.depth ≤ n ∧ d = .ofJson v := by
  constructor
  · intro hparse
    have hdeep : Document.parse (max n v.depth) v.chars = some d :=
      parse_of_le (Nat.le_max_left _ _) hparse
    rw [parse_chars h (Nat.le_max_right _ _)] at hdeep
    obtain rfl := Option.some.inj hdeep
    exact ⟨depth_le_of_fits (fits_of_parse hparse), rfl⟩
  · rintro ⟨hdepth, rfl⟩
    exact parse_chars h hdepth

end SmsGateway.Json
