import SmsGateway.Json.Numeral
import SmsGateway.Text.Hex

/-!
JSON texts. A `Document` is what a text says before its meaning is asked for: fields in the order
they were written, repeated names kept, and `none` for a string or number that denotes no value
(an unpaired surrogate, a number beyond the range). Reading is strict about everything else.
`Document.value?` gives the value; of a repeated name the last field counts.
-/

namespace SmsGateway.Json

open SmsGateway.Text

/-- A JSON text as it was written. -/
inductive Document where
  | null
  | bool (b : Bool)
  | num (n : Option Number)
  | str (s : Option String)
  | arr (items : List Document)
  | obj (fields : List (Option String × Document))
  deriving Inhabited

/-- Whether something is left to read after each reading, and less than before. -/
def Shrinks (read : List Char → Option (α × List Char)) : Prop :=
  ∀ s a t, read s = some (a, t) → t.length < s.length

def isSpace (c : Char) : Bool :=
  c == ' ' || c == '\t' || c == '\n' || c == '\r'

def skipSpace (s : List Char) : List Char :=
  s.dropWhile isSpace

theorem skipSpace_length_le (s : List Char) : (skipSpace s).length ≤ s.length :=
  (List.dropWhile_suffix isSpace).length_le

def isPlain (c : Char) : Bool :=
  c != '"' && c != '\\' && decide (0x20 ≤ c.toNat)

def readUnit : List Char → Option (Nat × List Char)
  | a :: b :: c :: d :: rest => do
      let a ← hexValue? a
      let b ← hexValue? b
      let c ← hexValue? c
      let d ← hexValue? d
      return (4096 * a + 256 * b + 16 * c + d, rest)
  | _ => none

/-- The second half of a surrogate pair, if it follows. -/
def readLowSurrogate : List Char → Option (Nat × List Char)
  | '\\' :: 'u' :: rest =>
      match readUnit rest with
      | some (n, rest') => if 0xDC00 ≤ n ∧ n ≤ 0xDFFF then some (n, rest') else none
      | none => none
  | _ => none

/-- The character after a backslash and `u`; `none` for a surrogate that is not part of a pair. -/
def readUnicode (s : List Char) : Option (Option Char × List Char) :=
  match readUnit s with
  | none => none
  | some (n, rest) =>
      if 0xD800 ≤ n ∧ n ≤ 0xDBFF then
        match readLowSurrogate rest with
        | some (low, rest') =>
            some (some (Char.ofNat (0x10000 + (n - 0xD800) * 0x400 + (low - 0xDC00))), rest')
        | none => some (none, rest)
      else if 0xDC00 ≤ n ∧ n ≤ 0xDFFF then some (none, rest)
      else some (some (Char.ofNat n), rest)

def readEscape : List Char → Option (Option Char × List Char)
  | '"' :: rest => some (some '"', rest)
  | '\\' :: rest => some (some '\\', rest)
  | '/' :: rest => some (some '/', rest)
  | 'b' :: rest => some (some '\x08', rest)
  | 'f' :: rest => some (some '\x0c', rest)
  | 'n' :: rest => some (some '\n', rest)
  | 'r' :: rest => some (some '\r', rest)
  | 't' :: rest => some (some '\t', rest)
  | 'u' :: rest => readUnicode rest
  | _ => none

theorem shrinks_readUnit : Shrinks readUnit := by
  intro s a t h
  unfold readUnit at h
  split at h
  · simp only [bind, Option.bind_eq_some_iff, pure, Option.some.injEq, Prod.mk.injEq] at h
    obtain ⟨_, _, _, _, _, _, _, _, _, rfl⟩ := h
    simp only [List.length_cons]
    omega
  · simp at h

theorem shrinks_readLowSurrogate : Shrinks readLowSurrogate := by
  intro s a t h
  unfold readLowSurrogate at h
  split at h
  · split at h
    · next hunit =>
        have := shrinks_readUnit _ _ _ hunit
        split at h
        · simp only [Option.some.injEq, Prod.mk.injEq] at h
          obtain ⟨_, rfl⟩ := h
          simp only [List.length_cons]
          omega
        · simp at h
    · simp at h
  · simp at h

theorem shrinks_readUnicode : Shrinks readUnicode := by
  intro s a t h
  unfold readUnicode at h
  split at h
  · simp at h
  · next hunit =>
      have := shrinks_readUnit _ _ _ hunit
      split at h
      · split at h
        · next hlow =>
            have := shrinks_readLowSurrogate _ _ _ hlow
            simp only [Option.some.injEq, Prod.mk.injEq] at h
            obtain ⟨_, rfl⟩ := h
            omega
        · simp only [Option.some.injEq, Prod.mk.injEq] at h
          obtain ⟨_, rfl⟩ := h
          assumption
      · split at h <;>
        · simp only [Option.some.injEq, Prod.mk.injEq] at h
          obtain ⟨_, rfl⟩ := h
          assumption

theorem shrinks_readEscape : Shrinks readEscape := by
  intro s a t h
  unfold readEscape at h
  split at h
  case h_9 =>
    have := shrinks_readUnicode _ _ _ h
    simp only [List.length_cons]
    omega
  case h_10 => simp at h
  all_goals
    simp only [Option.some.injEq, Prod.mk.injEq] at h
    obtain ⟨_, rfl⟩ := h
    simp

/-- The characters of a string up to its closing quote, read after the opening one. -/
def readString (s : List Char) : Option (Option (List Char) × List Char) :=
  let run := s.takeWhile isPlain
  match _hs : s.dropWhile isPlain with
  | '"' :: rest => some (some run, rest)
  | '\\' :: rest =>
      match _hread : readEscape rest with
      | none => none
      | some (c, rest') =>
          match readString rest' with
          | none => none
          | some (more, rest'') =>
              some (do let c ← c; let more ← more; return run ++ c :: more, rest'')
  | _ => none
termination_by s.length
decreasing_by
  have hle := (List.dropWhile_suffix (l := s) isPlain).length_le
  have hlt := shrinks_readEscape _ _ _ _hread
  simp only [_hs, List.length_cons] at hle
  omega

theorem shrinks_readString : Shrinks readString := by
  intro s
  induction hn : s.length using Nat.strongRecOn generalizing s with
  | ind n ih =>
      intro a t h
      have hle := (List.dropWhile_suffix (l := s) isPlain).length_le
      unfold readString at h
      dsimp only at h
      split at h
      · next hs =>
          simp only [hs, List.length_cons] at hle
          simp only [Option.some.injEq, Prod.mk.injEq] at h
          obtain ⟨_, rfl⟩ := h
          omega
      · next hs =>
          simp only [hs, List.length_cons] at hle
          split at h
          · simp at h
          · next hescape =>
              have hlt := shrinks_readEscape _ _ _ hescape
              split at h
              · simp at h
              · next hmore =>
                  have := ih _ (by omega) _ rfl _ _ hmore
                  simp only [Option.some.injEq, Prod.mk.injEq] at h
                  obtain ⟨_, rfl⟩ := h
                  omega
      · simp at h

def readTail (close : Char) (item : List Char → Option (α × List Char)) (shrinks : Shrinks item)
    (s : List Char) : Option (List α × List Char) :=
  match _hs : skipSpace s with
  | c :: rest =>
      if c = close then some ([], rest)
      else if c = ',' then
        match _hread : item rest with
        | none => none
        | some (x, rest') =>
            match readTail close item shrinks rest' with
            | none => none
            | some (xs, rest'') => some (x :: xs, rest'')
      else none
  | [] => none
termination_by s.length
decreasing_by
  have hle := skipSpace_length_le s
  have hlt := shrinks _ _ _ _hread
  simp only [_hs, List.length_cons] at hle
  omega

theorem shrinks_readTail (close : Char) {item : List Char → Option (α × List Char)}
    (shrinks : Shrinks item) : Shrinks (readTail close item shrinks) := by
  intro s
  induction hn : s.length using Nat.strongRecOn generalizing s with
  | ind n ih =>
      intro a t h
      have hle := skipSpace_length_le s
      unfold readTail at h
      split at h
      · next hs =>
          simp only [hs, List.length_cons] at hle
          split at h
          · simp only [Option.some.injEq, Prod.mk.injEq] at h
            obtain ⟨_, rfl⟩ := h
            omega
          · split at h
            · split at h
              · simp at h
              · next hitem =>
                  have hlt := shrinks _ _ _ hitem
                  split at h
                  · simp at h
                  · next hmore =>
                      have := ih _ (by omega) _ rfl _ _ hmore
                      simp only [Option.some.injEq, Prod.mk.injEq] at h
                      obtain ⟨_, rfl⟩ := h
                      omega
            · simp at h
      · simp at h

/-- Items with commas between them, read after the opening bracket. -/
def readItems (close : Char) (item : List Char → Option (α × List Char)) (shrinks : Shrinks item)
    (s : List Char) : Option (List α × List Char) :=
  match skipSpace s with
  | [] => none
  | c :: rest =>
      if c = close then some ([], rest)
      else
        match item (c :: rest) with
        | none => none
        | some (x, rest') =>
            match readTail close item shrinks rest' with
            | none => none
            | some (xs, rest'') => some (x :: xs, rest'')

theorem shrinks_readItems (close : Char) {item : List Char → Option (α × List Char)}
    (shrinks : Shrinks item) : Shrinks (readItems close item shrinks) := by
  intro s a t h
  have hle := skipSpace_length_le s
  unfold readItems at h
  split at h
  · simp at h
  · next hs =>
      simp only [hs, List.length_cons] at hle
      split at h
      · simp only [Option.some.injEq, Prod.mk.injEq] at h
        obtain ⟨_, rfl⟩ := h
        omega
      · split at h
        · simp at h
        · next hitem =>
            have hlt := shrinks _ _ _ hitem
            split at h
            · simp at h
            · next hmore =>
                have := shrinks_readTail close shrinks _ _ _ hmore
                simp only [Option.some.injEq, Prod.mk.injEq] at h
                obtain ⟨_, rfl⟩ := h
                simp only [List.length_cons] at hlt
                omega

/-- A name, a colon and what `item` reads. -/
def readMember (item : List Char → Option (α × List Char)) (s : List Char) :
    Option ((Option String × α) × List Char) :=
  match skipSpace s with
  | '"' :: rest =>
      match readString rest with
      | none => none
      | some (name, rest') =>
          match skipSpace rest' with
          | ':' :: rest'' =>
              match item rest'' with
              | none => none
              | some (v, rest''') => some ((name.map String.ofList, v), rest''')
          | _ => none
  | _ => none

theorem shrinks_readMember {item : List Char → Option (α × List Char)} (shrinks : Shrinks item) :
    Shrinks (readMember item) := by
  intro s a t h
  have hle := skipSpace_length_le s
  unfold readMember at h
  split at h
  · next hs =>
      simp only [hs, List.length_cons] at hle
      split at h
      · simp at h
      · next rest' hname =>
          have hlt := shrinks_readString _ _ _ hname
          have hle' := skipSpace_length_le rest'
          split at h
          · next hcolon =>
              simp only [hcolon, List.length_cons] at hle'
              split at h
              · simp at h
              · next hitem =>
                  have := shrinks _ _ _ hitem
                  simp only [Option.some.injEq, Prod.mk.injEq] at h
                  obtain ⟨_, rfl⟩ := h
                  omega
          · simp at h
  · simp at h

def readScalar (s : List Char) : Option (Document × List Char) :=
  match s with
  | 'n' :: 'u' :: 'l' :: 'l' :: rest => some (.null, rest)
  | 't' :: 'r' :: 'u' :: 'e' :: rest => some (.bool true, rest)
  | 'f' :: 'a' :: 'l' :: 's' :: 'e' :: rest => some (.bool false, rest)
  | '"' :: rest => (readString rest).map fun (t, rest') => (.str (t.map String.ofList), rest')
  | rest => (readNumeral rest).map fun (t, rest') => (.num t.value?, rest')

/-- A value at the start of a text, where arrays and objects are read by `items` and `fields` after
their opening brackets. -/
def readValueBy (items fields : List Char → Option (Document × List Char)) (s : List Char) :
    Option (Document × List Char) :=
  match skipSpace s with
  | '[' :: rest => items rest
  | '\x7b' :: rest => fields rest
  | rest => readScalar rest

theorem shrinks_readScalar : Shrinks readScalar := by
  intro s a t h
  unfold readScalar at h
  split at h
  case h_4 =>
    simp only [Option.map_eq_some_iff, Prod.mk.injEq, Prod.exists] at h
    obtain ⟨_, _, hstring, _, rfl⟩ := h
    have := shrinks_readString _ _ _ hstring
    simp only [List.length_cons]
    omega
  case h_5 =>
    simp only [Option.map_eq_some_iff, Prod.mk.injEq, Prod.exists] at h
    obtain ⟨_, _, hnumeral, _, rfl⟩ := h
    exact readNumeral_length_lt hnumeral
  all_goals
    simp only [Option.some.injEq, Prod.mk.injEq] at h
    obtain ⟨_, rfl⟩ := h
    simp only [List.length_cons]
    omega

theorem shrinks_readValueBy {items fields : List Char → Option (Document × List Char)}
    (hitems : Shrinks items) (hfields : Shrinks fields) :
    Shrinks (readValueBy items fields) := by
  intro s a t h
  have hle := skipSpace_length_le s
  unfold readValueBy at h
  split at h
  · next hs =>
      have := hitems _ _ _ h
      simp only [hs, List.length_cons] at hle
      omega
  · next hs =>
      have := hfields _ _ _ h
      simp only [hs, List.length_cons] at hle
      omega
  · have := shrinks_readScalar _ _ _ h
    omega

def readNothing (_ : List Char) : Option (Document × List Char) :=
  none

theorem shrinks_readNothing : Shrinks readNothing := by
  intro s a t h
  simp [readNothing] at h

/-- An array, read after its opening bracket. -/
def readArray (item : List Char → Option (Document × List Char)) (shrinks : Shrinks item)
    (s : List Char) : Option (Document × List Char) :=
  (readItems ']' item shrinks s).map fun (items, rest) => (.arr items, rest)

/-- An object, read after its opening bracket. -/
def readObject (item : List Char → Option (Document × List Char)) (shrinks : Shrinks item)
    (s : List Char) : Option (Document × List Char) :=
  (readItems '\x7d' (readMember item) (shrinks_readMember shrinks) s).map fun (fields, rest) =>
    (.obj fields, rest)

theorem shrinks_readArray {item : List Char → Option (Document × List Char)}
    (shrinks : Shrinks item) : Shrinks (readArray item shrinks) := by
  intro s a t h
  simp only [readArray, Option.map_eq_some_iff, Prod.mk.injEq, Prod.exists] at h
  obtain ⟨_, _, hitems, _, rfl⟩ := h
  exact shrinks_readItems _ shrinks _ _ _ hitems

theorem shrinks_readObject {item : List Char → Option (Document × List Char)}
    (shrinks : Shrinks item) : Shrinks (readObject item shrinks) := by
  intro s a t h
  simp only [readObject, Option.map_eq_some_iff, Prod.mk.injEq, Prod.exists] at h
  obtain ⟨_, _, hitems, _, rfl⟩ := h
  exact shrinks_readItems _ (shrinks_readMember shrinks) _ _ _ hitems

/-- The reader of values with arrays and objects nested at most `depth` deep. -/
def valueReader :
    (depth : Nat) → { read : List Char → Option (Document × List Char) // Shrinks read }
  | 0 => ⟨readValueBy readNothing readNothing,
      shrinks_readValueBy shrinks_readNothing shrinks_readNothing⟩
  | depth + 1 =>
      let ⟨item, shrinks⟩ := valueReader depth
      ⟨readValueBy (readArray item shrinks) (readObject item shrinks),
        shrinks_readValueBy (shrinks_readArray shrinks) (shrinks_readObject shrinks)⟩

/-- A value at the start of a text, with arrays and objects nested at most `depth` deep. -/
def readValue (depth : Nat) : List Char → Option (Document × List Char) :=
  (valueReader depth).val

/-- Reads a whole text: one value, and nothing but blanks after it. -/
def Document.parse (depth : Nat) (s : List Char) : Option Document :=
  match readValue depth s with
  | some (d, rest) => if skipSpace rest = [] then some d else none
  | none => none

/-- The greatest depth that values are read to where their meaning is asked for. -/
def maxDepth : Nat := 127

mutual

/-- The value of a text, if every string and number in it denotes one. -/
def Document.value? : Document → Option Json
  | .null => some .null
  | .bool b => some (.bool b)
  | .num n => n.map .num
  | .str s => s.map .str
  | .arr items => (itemValues? items).map .arr
  | .obj fields => (fieldValues? fields).map fun fs => .obj (NameTable.ofEntries fs)

def itemValues? : List Document → Option (List Json)
  | [] => some []
  | d :: rest => do
      let v ← d.value?
      let vs ← itemValues? rest
      return v :: vs

def fieldValues? : List (Option String × Document) → Option (List (String × Json))
  | [] => some []
  | (name, d) :: rest => do
      let name ← name
      let v ← d.value?
      let vs ← fieldValues? rest
      return (name, v) :: vs

end

mutual

def Document.ofJson : Json → Document
  | .null => .null
  | .bool b => .bool b
  | .num n => .num (some n)
  | .str s => .str (some s)
  | .arr items => .arr (ofItems items)
  | .obj fields => .obj (ofFields fields)

def ofItems : List Json → List Document
  | [] => []
  | v :: rest => .ofJson v :: ofItems rest

def ofFields : List (String × Json) → List (Option String × Document)
  | [] => []
  | (name, v) :: rest => (some name, .ofJson v) :: ofFields rest

end

def parse? (s : String) : Option Json :=
  (Document.parse maxDepth s.toList).bind Document.value?

end SmsGateway.Json
