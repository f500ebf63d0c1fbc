import SmsGateway.Config.Environment
import SmsGateway.Text.Blank

/-!
Files of variables: one variable a line, as `NAME=value`. Values may stand in quotation marks and
may refer to other variables. Such a file never changes a variable that has a value already, and
reading it ends at the first line that is malformed.
-/

namespace SmsGateway.Startup

open SmsGateway.Text

/-- How far a value has been read. -/
structure ValueState where
  read : List Char
  single : Bool
  double : Bool
  escaped : Bool
  /-- Whether only a comment may follow. -/
  ended : Bool
  /-- The name of a variable that is being referred to, the last character first, and whether it
  stands in braces. -/
  reference : Option (List Char × Bool)

/-- Replaces a reference to a variable by its value, which is empty if there is none. -/
def resolve (value : String → Option String) (s : ValueState) : ValueState :=
  match s.reference with
  | none => s
  | some (name, _) =>
      let text := (value (String.ofList name.reverse)).getD ""
      { s with read := text.toList.reverse ++ s.read, reference := none }

def ValueState.push (s : ValueState) (c : Char) : ValueState :=
  { s with read := c :: s.read }

def plainChar (s : ValueState) (c : Char) : ValueState :=
  if c = '$' then { s with reference := some ([], false) }
  else if s.double then
    if c = '"' then { s with double := false }
    else if c = '\\' then { s with escaped := true }
    else s.push c
  else if c = '\'' then { s with single := true }
  else if c = '"' then { s with double := true }
  else if c = '\\' then { s with escaped := true }
  else if c = ' ' ∨ c = '\t' then { s with ended := true }
  else s.push c

def isReferenceChar (c : Char) : Bool :=
  c.isAlphanum || 0x80 ≤ c.toNat

def valueChar (value : String → Option String) (s : ValueState) (c : Char) : Option ValueState :=
  if s.ended then if c = ' ' ∨ c = '\t' then some s else none
  else if s.escaped then
    let s := { s with escaped := false }
    if c = 'n' then some (s.push '\n')
    else if c ∈ ['\\', '\'', '"', '$', ' '] then some (s.push c)
    else none
  else if s.single then some (if c = '\'' then { s with single := false } else s.push c)
  else
    match s.reference with
    | none => some (plainChar s c)
    | some (name, braced) =>
        if isReferenceChar c then some { s with reference := some (c :: name, braced) }
        else if braced then
          if c = '\x7d' then some (resolve value s)
          else some { s with reference := some (c :: name, braced) }
        else if c = '\x7b' ∧ name = [] then some { s with reference := some ([], true) }
        else
          let s := resolve value s
          some (if c = '$' then { s with reference := some ([], false) } else s.push c)

def valueChars (value : String → Option String) : ValueState → List Char → Option ValueState
  | s, [] => some s
  | s, c :: rest =>
      if s.ended && c == '#' then some s
      else (valueChar value s c).bind fun s => valueChars value s rest

def value? (value : String → Option String) (s : List Char) : Option String :=
  match valueChars value ⟨[], false, false, false, false, none⟩ s with
  | none => none
  | some s =>
      if s.single || s.double || s.reference.any (·.2) then none
      else some (String.ofList (resolve value s).read.reverse)

def isNameChar (c : Char) : Bool :=
  c.isAlphanum || c == '_' || c == '.'

def name? (s : List Char) : Option (String × List Char) :=
  match s with
  | c :: _ =>
      if c.isAlpha || c == '_' then
        some (String.ofList (s.takeWhile isNameChar), dropBlanks (s.dropWhile isNameChar))
      else none
  | [] => none

/-- A name and the text after its equals sign; the word `export` may stand in front. -/
def assignment? (s : List Char) : Option (String × List Char) := do
  let (name, rest) ← name? s
  match rest with
  | '=' :: rest => return (name, rest)
  | _ =>
      if name ≠ "export" then none
      let (name, rest) ← name? rest
      match rest with
      | '=' :: rest => return (name, rest)
      | _ => none

/-- What a line of variables holds: nothing, or a variable. -/
def line? (value : String → Option String) (s : List Char) : Option (Option (String × String)) :=
  match dropBlanks s with
  | [] => some none
  | '#' :: _ => some none
  | s => do
      let (name, rest) ← assignment? s
      match dropBlanks rest with
      | [] | '#' :: _ => return some (name, "")
      | rest => return some (name, ← value? value rest)

/-- Gives a variable a value unless it has one. -/
def addIfNew (env : Environment) (name value : String) : Environment :=
  if (NameTable.find? env name).isSome then env else NameTable.insert name value env

def withoutReturn (s : List Char) : List Char :=
  if s.getLast? = some '\r' then s.dropLast else s

def addLines : Environment → List (List Char) → Environment
  | env, [] => env
  | env, s :: rest =>
      match line? (NameTable.find? env) (withoutReturn s) with
      | none => env
      | some none => addLines env rest
      | some (some (name, value)) => addLines (addIfNew env name value) rest

def withFile (given : Environment) (content : String) : Environment :=
  addLines given (content.toList.splitOn '\n')

end SmsGateway.Startup
