import SmsGateway.Proofs.Json.Numerals
import SmsGateway.Proofs.Json.Strings
import SmsGateway.Proofs.Json.Values

/-!
A value that was written is read back, to the last character of its text and no further. Each part
of the grammar is taken alone: what a list of items needs is only that its items are read back.
-/

namespace SmsGateway.Json

theorem skipSpace_cons {c : Char} (h : isSpace c = false) (s : List Char) :
    skipSpace (c :: s) = c :: s := by
  rw [skipSpace, List.dropWhile_cons_of_neg]
  simp [h]

theorem separated_cons (x : List Char) (xs : List (List Char)) :
    separated (x :: xs) = x ++ xs.flatMap (',' :: ·) := by
  induction xs generalizing x with
  | nil => simp [separated]
  | cons y rest ih => rw [separated, ih, List.flatMap_cons, List.cons_append]

/-- The brackets that end a list of items. -/
structure IsCloser (close : Char) : Prop where
  not_space : isSpace close = false
  ne_comma : close ≠ ','
  endsNumeral : ∀ s, EndsNumeral (close :: s)

theorem isCloser_bracket : IsCloser ']' :=
  ⟨by decide, by decide, endsNumeral_cons (by decide) (by decide)⟩

theorem isCloser_brace : IsCloser '\x7d' :=
  ⟨by decide, by decide, endsNumeral_cons (by decide) (by decide)⟩

theorem endsNumeral_comma (s : List Char) : EndsNumeral (',' :: s) :=
  endsNumeral_cons (by decide) (by decide) s

section Items

variable {α β : Type} {close : Char} {item : List Char → Option (α × List Char)}
  {write : β → List Char} {mean : β → α}

/-- Whether a reader reads back what is written for something. -/
def ReadsBack (item : List Char → Option (α × List Char)) (write : β → List Char) (mean : β → α)
    (x : β) : Prop :=
  ∀ s, EndsNumeral s → item (write x ++ s) = some (mean x, s)

theorem endsNumeral_flatMap (hclose : IsCloser close) (write : β → List Char) (xs : List β)
    (s : List Char) :
    EndsNumeral (xs.flatMap (fun x => ',' :: write x) ++ close :: s) := by
  cases xs with
  | nil => exact hclose.endsNumeral s
  | cons y ys => exact endsNumeral_comma _

theorem readTail_flatMap (shrinks : Shrinks item) (hclose : IsCloser close) {xs : List β}
    (hxs : ∀ x ∈ xs, ReadsBack item write mean x) (s : List Char) :
    readTail close item shrinks (xs.flatMap (fun x => ',' :: write x) ++ close :: s) =
      some (xs.map mean, s) := by
  induction xs with
  | nil =>
      rw [List.flatMap_nil, List.nil_append, readTail]
      split
      · next hs =>
          rw [skipSpace_cons hclose.not_space] at hs
          obtain ⟨rfl, rfl⟩ := List.cons.inj hs
          rw [if_pos rfl]
          rfl
      · next hs => simp [skipSpace_cons hclose.not_space] at hs
  | cons x xs ih =>
      obtain ⟨hx, hrest⟩ := List.forall_mem_cons.mp hxs
      have hspace : isSpace ',' = false := by decide
      have hends := endsNumeral_flatMap hclose write xs s
      rw [List.flatMap_cons, List.append_assoc, List.cons_append, readTail]
      split
      · next hs =>
          rw [skipSpace_cons hspace] at hs
          obtain ⟨rfl, rfl⟩ := List.cons.inj hs
          rw [if_neg hclose.ne_comma.symm, if_pos rfl]
          split
          · next hread => simp [hx _ hends] at hread
          · next hread =>
              rw [hx _ hends] at hread
              obtain ⟨rfl, rfl⟩ := Prod.mk.inj (Option.some.inj hread)
              rw [ih hrest]
              rfl
      · next hs => simp [skipSpace_cons hspace] at hs

theorem readItems_separated (shrinks : Shrinks item) (hclose : IsCloser close) {xs : List β}
    (hxs : ∀ x ∈ xs, ReadsBack item write mean x)
    (hstart : ∀ x ∈ xs, ∃ c cs, write x = c :: cs ∧ isSpace c = false ∧ c ≠ close)
    (s : List Char) :
    readItems close item shrinks (separated (xs.map write) ++ close :: s) =
      some (xs.map mean, s) := by
  cases xs with
  | nil =>
      rw [List.map_nil, separated, List.nil_append, readItems, skipSpace_cons hclose.not_space]
      dsimp only
      rw [if_pos rfl]
      rfl
  | cons x xs =>
      obtain ⟨hx, hrest⟩ := List.forall_mem_cons.mp hxs
      obtain ⟨c, cs, hwrite, hspace, hne⟩ := hstart x List.mem_cons_self
      have hread := hx _ (endsNumeral_flatMap hclose write xs s)
      rw [List.map_cons, separated_cons, List.flatMap_map, List.append_assoc, readItems]
      rw [hwrite, List.cons_append] at hread ⊢
      rw [skipSpace_cons hspace]
      dsimp only
      rw [if_neg hne, hread]
      dsimp only
      rw [readTail_flatMap shrinks hclose hrest]
      rfl

theorem ReadsBack.member {x : β} (h : ReadsBack item write mean x) (name : String) :
    ReadsBack (readMember item) (fun f : String × β => member f.1 (write f.2))
      (fun f => (some f.1, mean f.2)) (name, x) := by
  intro s hs
  have hquote : isSpace '"' = false := by decide
  have hcolon : isSpace ':' = false := by decide
  simp only [Json.member, quoted, List.cons_append, List.append_assoc, List.nil_append, readMember,
    skipSpace_cons hquote, readString_flatMap_escape, skipSpace_cons hcolon, h s hs,
    Option.map_some, String.ofList_toList]

end Items

/-- The characters that a written integer starts with. -/
def IsNumeralHead (c : Char) : Prop :=
  c = '-' ∨ c.isDigit = true

theorem IsNumeralHead.ne {c d : Char} (h : IsNumeralHead c) (hsign : d ≠ '-')
    (hdigit : d.isDigit = false) : c ≠ d := by
  rintro rfl
  rcases h with h | h
  · exact hsign h
  · simp [hdigit] at h

theorem IsNumeralHead.not_space {c : Char} (h : IsNumeralHead c) : isSpace c = false := by
  have hblank : c ≠ ' ' := h.ne (by decide) (by decide)
  have htab : c ≠ '\t' := h.ne (by decide) (by decide)
  have hline : c ≠ '\n' := h.ne (by decide) (by decide)
  have hreturn : c ≠ '\r' := h.ne (by decide) (by decide)
  simp [isSpace, hblank, htab, hline, hreturn]

theorem intChars_eq_cons (n : Int) : ∃ c cs, intChars n = c :: cs ∧ IsNumeralHead c := by
  rw [intChars]
  split
  · exact ⟨'-', _, rfl, .inl rfl⟩
  · cases hdigits : Nat.toDigits 10 n.natAbs with
    | nil => simp at hdigits
    | cons c cs => exact ⟨c, cs, rfl, .inr (isDigit_of_mem_toDigits (by rw [hdigits]; simp))⟩

theorem chars_eq_cons {v : Json} (h : v.Integral) :
    ∃ c cs, v.chars = c :: cs ∧ isSpace c = false ∧ c ≠ ']' := by
  cases h with
  | null => exact ⟨'n', _, rfl, by decide, by decide⟩
  | bool b => cases b <;> exact ⟨_, _, rfl, by decide, by decide⟩
  | @int n hn =>
      obtain ⟨c, cs, hchars, hc⟩ := intChars_eq_cons n
      exact ⟨c, cs, hchars, hc.not_space, hc.ne (by decide) (by decide)⟩
  | str s => exact ⟨'"', _, rfl, by decide, by decide⟩
  | arr h => exact ⟨'[', _, rfl, by decide, by decide⟩
  | obj h => exact ⟨'\x7b', _, rfl, by decide, by decide⟩

theorem readScalar_of_isNumeralHead {c : Char} (h : IsNumeralHead c) (s : List Char) :
    readScalar (c :: s) = (readNumeral (c :: s)).map fun (t, rest) => (.num t.value?, rest) := by
  have hn : c ≠ 'n' := h.ne (by decide) (by decide)
  have ht : c ≠ 't' := h.ne (by decide) (by decide)
  have hf : c ≠ 'f' := h.ne (by decide) (by decide)
  have hquote : c ≠ '"' := h.ne (by decide) (by decide)
  unfold readScalar
  split <;> simp_all

variable {items fields : List Char → Option (Document × List Char)}

theorem readValueBy_of_ne {c : Char} (hspace : isSpace c = false) (hbracket : c ≠ '[')
    (hbrace : c ≠ '\x7b') (s : List Char) :
    readValueBy items fields (c :: s) = readScalar (c :: s) := by
  rw [readValueBy, skipSpace_cons hspace]
  split <;> simp_all

theorem readsBack_scalar {v : Json} (hintegral : v.Integral) (hdepth : v.depth = 0) :
    ReadsBack (readValueBy items fields) chars .ofJson v := by
  intro s hs
  cases hintegral with
  | null => exact readValueBy_of_ne (by decide) (by decide) (by decide) _
  | bool b => cases b <;> exact readValueBy_of_ne (by decide) (by decide) (by decide) _
  | @int n hn =>
      obtain ⟨c, cs, hchars, hc⟩ := intChars_eq_cons n
      obtain ⟨t, hread, hvalue⟩ := readNumeral_intChars hn hs
      rw [chars, numberChars, hchars, List.cons_append,
        readValueBy_of_ne hc.not_space (hc.ne (by decide) (by decide))
          (hc.ne (by decide) (by decide)),
        readScalar_of_isNumeralHead hc, ← List.cons_append, ← hchars, hread, Option.map_some]
      simp only [hvalue, Document.ofJson]
  | str text =>
      rw [chars, quoted, List.cons_append, List.append_assoc,
        readValueBy_of_ne (by decide) (by decide) (by decide)]
      simp only [List.singleton_append, readScalar, readString_flatMap_escape, Option.map_some,
        String.ofList_toList, Document.ofJson]
  | arr h => simp [depth] at hdepth
  | obj h => simp [depth] at hdepth

theorem readValue_succ (n : Nat) :
    readValue (n + 1) =
      readValueBy (readArray (readValue n) (valueReader n).property)
        (readObject (readValue n) (valueReader n).property) := rfl

theorem readsBack_chars {v : Json} {n : Nat} (hintegral : v.Integral) (hdepth : v.depth ≤ n) :
    ReadsBack (readValue n) chars .ofJson v := by
  induction n generalizing v with
  | zero => exact readsBack_scalar hintegral (Nat.le_zero.mp hdepth)
  | succ n ih =>
      have hbracket : isSpace '[' = false := by decide
      have hbrace : isSpace '\x7b' = false := by decide
      cases hintegral with
      | arr hitems =>
          rw [depth, Nat.add_le_add_iff_right, itemsDepth_le_iff] at hdepth
          intro s hs
          have hread := readItems_separated (valueReader n).property isCloser_bracket
            (fun v hv => ih (hitems v hv) (hdepth v hv))
            (fun v hv => chars_eq_cons (hitems v hv)) s
          rw [chars, bracketed, itemChars_eq_map, List.cons_append, List.append_assoc,
            List.singleton_append, readValue_succ, readValueBy, skipSpace_cons hbracket]
          simp only [readArray]
          rw [Document.ofJson, ofItems_eq_map]
          exact congrArg (Option.map _) hread
      | obj hfields =>
          rw [depth, Nat.add_le_add_iff_right, fieldsDepth_le_iff] at hdepth
          intro s hs
          have hread := readItems_separated (shrinks_readMember (valueReader n).property)
            isCloser_brace
            (fun f hf => (ih (hfields f hf) (hdepth f hf)).member f.1)
            (fun f hf => ⟨'"', _, rfl, by decide, by decide⟩) s
          rw [chars, braced, fieldChars_eq_map, List.cons_append, List.append_assoc,
            List.singleton_append, readValue_succ, readValueBy, skipSpace_cons hbrace]
          simp only [readObject]
          rw [Document.ofJson, ofFields_eq_map]
          exact congrArg (Option.map _) hread
      | null => exact readsBack_scalar .null rfl
      | bool b => exact readsBack_scalar (.bool b) rfl
      | int hn => exact readsBack_scalar (.int hn) rfl
      | str s => exact readsBack_scalar (.str s) rfl

theorem parse_chars {v : Json} {n : Nat} (hintegral : v.Integral) (hdepth : v.depth ≤ n) :
    Document.parse n v.chars = some (.ofJson v) := by
  have hread := readsBack_chars hintegral hdepth [] endsNumeral_nil
  rw [List.append_nil] at hread
  rw [Document.parse, hread]
  rfl

end SmsGateway.Json
