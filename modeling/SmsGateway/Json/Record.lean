import SmsGateway.Json.Document
import SmsGateway.Json.Writer
import SmsGateway.Number.Single

namespace SmsGateway.Json

/-- The fields of a record that were found, by their declared names. -/
abbrev Record := List (String × Document)

/-- Keeps the declared fields of an object, each at most once. -/
def declaredFields (names : List String) : List (Option String × Document) → Option Record
  | [] => some []
  | (none, _) :: _ => none
  | (some name, d) :: rest =>
      match declaredFields names rest with
      | none => none
      | some found =>
          if name ∈ names then
            if (found.lookup name).isSome then none else some ((name, d) :: found)
          else some found

def Document.record? (names : List String) : Document → Option Record
  | .obj fields => declaredFields names fields
  | .arr items => if items.length = names.length then some (names.zip items) else none
  | _ => none

/-- The fields of a record that may be left out; an array may leave out the last ones. -/
def Document.partialRecord? (names : List String) : Document → Option Record
  | .obj fields => declaredFields names fields
  | .arr items => if items.length ≤ names.length then some (names.zip items) else none
  | _ => none

def Record.required (r : Record) (name : String) (decode : Document → Option α) : Option α :=
  (r.lookup name).bind decode

def Record.optional (r : Record) (name : String) (decode : Document → Option α) :
    Option (Option α) :=
  match r.lookup name with
  | none | some .null => some none
  | some d => (decode d).map some

namespace Document

def text? : Document → Option String
  | .str s => s
  | _ => none

def bool? : Document → Option Bool
  | .bool b => some b
  | _ => none

def int? (low high : Int) : Document → Option Int
  | .num (some (.int n)) => if low ≤ n ∧ n ≤ high then some n else none
  | _ => none

/-- A natural number of at most `bits` bits. -/
def nat? (bits : Nat) (d : Document) : Option Nat :=
  (d.int? 0 (Nat.pow 2 bits - 1)).map Int.toNat

/-- A member of a list of named things: its name, or an object of its name and null. -/
def named? (ofName? : String → Option α) : Document → Option α
  | .str (some s) => ofName? s
  | .obj [(some s, .null)] => ofName? s
  | _ => none

/-- A 32-bit floating-point number; integers are rounded to one. -/
def single? : Document → Option Number.Single
  | .num (some (.int n)) => some (.ofInt n)
  | .num (some (.real x)) => some (.ofFloat x)
  | _ => none

def items? (decode : Document → Option α) : Document → Option (List α)
  | .arr items => items.mapM decode
  | _ => none

end Document

def nullable (write : α → List Char) : Option α → List Char
  | none => ['n', 'u', 'l', 'l']
  | some a => write a

def boolChars (b : Bool) : List Char :=
  chars (.bool b)

end SmsGateway.Json
