import SmsGateway.NameTable

namespace SmsGateway

/-- A JSON number. -/
inductive Json.Number where
  | int (n : Int)
  | real (x : Float)
  deriving BEq, Inhabited

/-- Integers from the least signed to the greatest unsigned number of 64 bits. -/
def Json.Number.InRange : Json.Number → Prop
  | .int n => -9223372036854775808 ≤ n ∧ n < 18446744073709551616
  | .real _ => True

/-- A JSON value. -/
inductive Json where
  | null
  | bool (b : Bool)
  | num (n : Json.Number)
  | str (s : String)
  | arr (items : List Json)
  | obj (fields : List (String × Json))
  deriving BEq, Inhabited

namespace Json

def int (n : Int) : Json :=
  .num (.int n)

def text? : Json → Option String
  | .str s => some s
  | _ => none

mutual

/-- How deep arrays and objects are nested; a value without them has depth zero. -/
def depth : Json → Nat
  | .arr items => itemsDepth items + 1
  | .obj fields => fieldsDepth fields + 1
  | _ => 0

def itemsDepth : List Json → Nat
  | [] => 0
  | v :: rest => max (depth v) (itemsDepth rest)

def fieldsDepth : List (String × Json) → Nat
  | [] => 0
  | (_, v) :: rest => max (depth v) (fieldsDepth rest)

end

mutual

/-- Every object ascends by name and every integer fits 64 bits. -/
def Canonical : Json → Prop
  | .num n => n.InRange
  | .arr items => CanonicalItems items
  | .obj fields => NameTable.Ascending fields ∧ CanonicalFields fields
  | _ => True

def CanonicalItems : List Json → Prop
  | [] => True
  | v :: rest => Canonical v ∧ CanonicalItems rest

def CanonicalFields : List (String × Json) → Prop
  | [] => True
  | (_, v) :: rest => Canonical v ∧ CanonicalFields rest

end

end Json

end SmsGateway
