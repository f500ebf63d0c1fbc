import SmsGateway.Toml.Scalar

namespace SmsGateway.TomlText

open SmsGateway.Toml (Fields Origin put remove descend addValue)

/-- A text without blanks, line ends and comments in front. The first number bounds the lines. -/
def skipLines : Nat → List Char → List Char
  | 0, s => s
  | n + 1, s =>
      let s := skipComment (skipBlanks s)
      match newline? s with
      | some rest => skipLines n rest
      | none => s

/-- The pairs of a table that is written as a value, after one pair has been read. -/
def addPair (fields : Fields) (pair : (List String × String) × Toml) : Option Fields :=
  addValue pair.1.1 pair.1.2 pair.2 fields

mutual

/-- A value within some depth. The first number bounds the values read. -/
def value : Nat → Nat → List Char → Option (Toml × List Char)
  | 0, _, _ => none
  | n + 1, depth, s =>
      match s with
      | '"' :: _ | '\'' :: _ => (string s).map fun r => (.text r.1, r.2)
      | '[' :: rest =>
          match depth with
          | 0 => none
          | depth + 1 => do
              let (items, rest) ← items n depth rest
              return (.array items, rest)
      | '\x7b' :: rest =>
          match depth with
          | 0 => none
          | depth + 1 =>
              match skipBlanks rest with
              | '\x7d' :: rest => some (.inline [], rest)
              | rest => do
                  let (fields, rest) ← pairs n depth [] rest
                  return (.inline fields, rest)
      | 't' :: 'r' :: 'u' :: 'e' :: rest => some (.truth true, rest)
      | 'f' :: 'a' :: 'l' :: 's' :: 'e' :: rest => some (.truth false, rest)
      | s => number s

/-- The items of an array up to its end, which a comma may precede. -/
def items : Nat → Nat → List Char → Option (List Toml × List Char)
  | 0, _, _ => none
  | n + 1, depth, s =>
      let s := skipLines s.length s
      match s with
      | ']' :: rest => some ([], rest)
      | s => do
          let (first, rest) ← value n depth s
          match skipLines rest.length rest with
          | ',' :: rest =>
              let (others, rest) ← items n depth rest
              return (first :: others, rest)
          | ']' :: rest => return ([first], rest)
          | _ => none

/-- The pairs of a table that is written as a value, up to its end. -/
def pairs : Nat → Nat → Fields → List Char → Option (Fields × List Char)
  | 0, _, _, _ => none
  | n + 1, depth, fields, s => do
      let (k, rest) ← key s
      let rest ← after '=' rest
      let (v, rest) ← value n depth (skipBlanks rest)
      let fields ← addPair fields (k, v)
      match skipBlanks rest with
      | ',' :: rest => pairs n depth fields rest
      | '\x7d' :: rest => return (fields, rest)
      | _ => none

end

/-- The document so far, and the table that pairs are added to. -/
structure Draft where
  root : Fields
  /-- The table under the last header. -/
  current : Fields
  /-- The path of the last header; empty before the first one. -/
  path : List String
  /-- Whether the last header names an element of an array. -/
  isElement : Bool

namespace Draft

def empty : Draft := ⟨[], [], [], false⟩

/-- Puts a table into the place that the last name of its header gives it. -/
def place (d : Draft) (last : String) (fields : Fields) : Option (Fields × Unit) :=
  if d.isElement then
    match fields.lookup last with
    | some (.tables elements) => some (put last (.tables (d.current :: elements)) fields, ())
    | none => some (put last (.tables [d.current]) fields, ())
    | some _ => none
  else some (put last (.table .headed d.current) fields, ())

/-- The document with the table under the last header in its place. -/
def settle (d : Draft) : Option Fields :=
  match d.path.getLast? with
  | none => some d.current
  | some last =>
      (descend false (fun _ => d.place last) d.path.dropLast .headed d.root).map (·.1)

/-- Takes the table of a new header out of its place: nothing, or what was implied so far. -/
def takeTable (last : String) (fields : Fields) : Option (Fields × Fields) :=
  match fields.lookup last with
  | none => some (fields, [])
  | some (.table .implied inner) => some (remove last fields, inner)
  | some _ => none

def beginTable (d : Draft) (path : List String) (last : String) : Option Draft := do
  let root ← d.settle
  let (root, inner) ← descend false (fun _ => takeTable last) path .headed root
  return ⟨root, inner, path ++ [last], false⟩

def makeArray (last : String) (fields : Fields) : Option (Fields × Unit) :=
  match fields.lookup last with
  | none => some (put last (.tables []) fields, ())
  | some (.tables _) => some (fields, ())
  | some _ => none

def beginElement (d : Draft) (path : List String) (last : String) : Option Draft := do
  let root ← d.settle
  let (root, _) ← descend false (fun _ => makeArray last) path .headed root
  return ⟨root, [], path ++ [last], true⟩

def addPair (d : Draft) (k : List String × String) (v : Toml) : Option Draft := do
  let current ← addValue k.1 k.2 v d.current
  return { d with current }

end Draft

/-- The end of a line with a comment in front of it, or of the text. -/
def lineEnd (s : List Char) : Option (List Char) :=
  match skipComment (skipBlanks s) with
  | [] => some []
  | s => newline? s

def pair (s : List Char) : Option (((List String × String) × Toml) × List Char) := do
  let (k, rest) ← key s
  let rest ← after '=' rest
  let (v, rest) ← value (s.length + 1) maxNesting (skipBlanks rest)
  return ((k, v), rest)

def line (d : Draft) (s : List Char) : Option (Draft × List Char) :=
  match skipBlanks s with
  | [] => some (d, [])
  | '#' :: rest => (lineEnd ('#' :: rest)).map fun rest => (d, rest)
  | '[' :: '[' :: rest => do
      let ((path, last), rest) ← key rest
      let rest ← after ']' rest
      let rest ← after ']' rest
      return (← d.beginElement path last, ← lineEnd rest)
  | '[' :: rest => do
      let ((path, last), rest) ← key rest
      let rest ← after ']' rest
      return (← d.beginTable path last, ← lineEnd rest)
  | s =>
      match newline? s with
      | some rest => some (d, rest)
      | none => do
          let ((k, v), rest) ← pair s
          return (← d.addPair k v, ← lineEnd rest)

def lines : Nat → Draft → List Char → Option Fields
  | _, d, [] => d.settle
  | 0, _, _ => none
  | n + 1, d, s => do
      let (d, rest) ← line d s
      lines n d rest

/-- The fields of a document, which may begin with a byte order mark. -/
def parse (s : List Char) : Option Fields :=
  let s := match s with
    | '\uFEFF' :: rest => rest
    | s => s
  lines (s.length + 1) .empty s

end SmsGateway.TomlText
