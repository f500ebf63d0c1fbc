/-!
TOML values, and the tables that a document builds up. A table remembers how it came to be, because
that decides what may still be added to it.
-/

namespace SmsGateway

/-- How a table came to be. -/
inductive Toml.Origin where
  | headed
  /-- It was only named on the way to a table with a header. -/
  | implied
  /-- It was named by a dotted key. -/
  | dotted
  deriving DecidableEq, Repr

/-- A TOML value. -/
inductive Toml where
  | text (s : String)
  | whole (n : Int)
  | real (x : Float)
  | nan (negative : Bool)
  | truth (b : Bool)
  /-- A date, a time or both. -/
  | moment
  | array (items : List Toml)
  /-- A table that is written as a value, to which nothing can be added. -/
  | inline (fields : List (String × Toml))
  | table (origin : Toml.Origin) (fields : List (String × Toml))
  /-- An array whose elements are tables with headers, the last one first. -/
  | tables (elements : List (List (String × Toml)))
  deriving Inhabited

namespace Toml

variable {α : Type}

/-- Fields of a table, in the order in which they were first named. -/
abbrev Fields := List (String × Toml)

/-- Gives a name a value, in its place if it is there and at the end if not. -/
def put (name : String) (value : Toml) : Fields → Fields
  | [] => [(name, value)]
  | (n, v) :: rest => if n = name then (n, value) :: rest else (n, v) :: put name value rest

def remove (name : String) (fields : Fields) : Fields :=
  fields.filter fun f => f.1 ≠ name

/-- Adds a value under the last name of a key. `dotted` tells whether the key has other names before
it, and `origin` how the table that these lead to came to be. -/
def addHere (dotted : Bool) (name : String) (value : Toml) (origin : Origin) (fields : Fields) :
    Option (Fields × Unit) :=
  if (origin == .dotted) != dotted then none
  else if (fields.lookup name).isSome then none
  else some (put name value fields, ())

/-- Changes the table that a path of names leads to, and makes the tables on the way. A dotted key
may not pass through a table that has a header. -/
def descend (dotted : Bool) (change : Origin → Fields → Option (Fields × α)) :
    List String → Origin → Fields → Option (Fields × α)
  | [], origin, fields => change origin fields
  | name :: path, _, fields =>
      match fields.lookup name with
      | none => do
          let origin := if dotted then .dotted else .implied
          let (inner, a) ← descend dotted change path origin []
          return (put name (.table origin inner) fields, a)
      | some (.table origin inner) => do
          if dotted && origin == .headed then none
          let (inner, a) ← descend dotted change path origin inner
          return (put name (.table origin inner) fields, a)
      | some (.tables (last :: before)) => do
          let (last, a) ← descend dotted change path .headed last
          return (put name (.tables (last :: before)) fields, a)
      | some _ => none

def addValue (path : List String) (name : String) (value : Toml) (fields : Fields) :
    Option Fields :=
  (descend true (addHere (!path.isEmpty) name value) path .headed fields).map (·.1)

end Toml

end SmsGateway
