import SmsGateway.Number.Binary

namespace SmsGateway.Number

/-- A decimal number: `digits · 10 ^ exponent`. -/
structure Decimal where
  digits : Nat
  exponent : Int
  deriving Repr, DecidableEq

/-- A binary number and the ends of the interval that rounds to it, over one denominator. -/
structure Interval where
  low : Nat
  value : Nat
  high : Nat
  den : Nat
  /-- Whether the ends themselves round to the number. -/
  closed : Bool

/-- The interval of the reals that round to a number: half way to each neighbour. -/
def Binary.interval (b : Binary) : Interval :=
  let up := if 0 ≤ b.exponent then Nat.pow 2 b.exponent.toNat else 1
  let down := if 0 ≤ b.exponent then 4 else 4 * Nat.pow 2 (-b.exponent).toNat
  let below := if b.boundary then 1 else 2
  ⟨(4 * b.mantissa - below) * up, 4 * b.mantissa * up, (4 * b.mantissa + 2) * up, down,
    b.mantissa % 2 == 0⟩

def Interval.inUnits (i : Interval) (k : Int) : Interval :=
  if 0 ≤ k then { i with den := i.den * Nat.pow 10 k.toNat }
  else
    let f := Nat.pow 10 (-k).toNat
    { i with low := i.low * f, value := i.value * f, high := i.high * f }

def Interval.contains (i : Interval) (n : Nat) : Bool :=
  let at' := n * i.den
  if i.closed then decide (i.low ≤ at') && decide (at' ≤ i.high)
  else decide (i.low < at') && decide (at' < i.high)

/-- The integer in the interval that is nearest to the value, if one of the two integers around
the value is in it. -/
def Interval.nearest? (i : Interval) : Option Nat :=
  let below := i.value / i.den
  let above := below + 1
  let rest := i.value % i.den
  match decide (0 < below) && i.contains below, i.contains above with
  | true, true =>
      if 2 * rest < i.den then some below
      else if i.den < 2 * rest then some above
      else some (if below % 2 = 0 then below else above)
  | true, false => some below
  | false, true => some above
  | false, false => none

/-- Tries the grids `10 ^ k`, `10 ^ (k - 1)`, … and takes the first with a hit. -/
def Interval.search (i : Interval) : (steps : Nat) → (k : Int) → Decimal
  | 0, k => ⟨(i.inUnits k).value / (i.inUnits k).den, k⟩
  | steps + 1, k =>
      match (i.inUnits k).nearest? with
      | some n => ⟨n, k⟩
      | none => i.search steps (k - 1)

/-- The shortest decimal of a number other than zero. The first grid is coarser than the number;
a hit comes within eighteen digits. -/
def Binary.shortest (b : Binary) : Decimal :=
  b.interval.search 24 ((((b.mantissa.log2 : Int) + b.exponent) * 30103) / 100000 + 2)

/-- How a decimal is written: positionally while its point lies more than `low` and at most `high`
places behind its first digit, else with an exponent. -/
structure Layout where
  low : Int
  high : Int
  /-- What stands between the digits and an exponent that is not negative. -/
  mark : String

/-- The digits with the point and the exponent that a layout asks for. -/
def Layout.write (l : Layout) (d : Decimal) : List Char :=
  let digits := Nat.toDigits 10 d.digits
  let size : Int := digits.length
  let point := size + d.exponent
  if l.low < point && point ≤ l.high then
    if 0 ≤ d.exponent then digits ++ List.replicate d.exponent.toNat '0' ++ ['.', '0']
    else if 0 < point then digits.take point.toNat ++ '.' :: digits.drop point.toNat
    else '0' :: '.' :: (List.replicate (-point).toNat '0' ++ digits)
  else
    let power := point - 1
    let exponent :=
      if power < 0 then 'e' :: '-' :: Nat.toDigits 10 (-power).toNat
      else l.mark.toList ++ Nat.toDigits 10 power.toNat
    match digits with
    | [d] => d :: exponent
    | d :: more => d :: '.' :: (more ++ exponent)
    | [] => exponent

/-- A finite number: the sign, then the shortest digits; a zero is `0.0`. -/
def Layout.writeBinary (l : Layout) (negative : Bool) (b : Binary) : List Char :=
  (if negative then ['-'] else []) ++
    (if b.mantissa = 0 then ['0', '.', '0'] else l.write b.shortest)

/-- Numbers in JSON: positional from `1e-5` below `1e16`, a plus sign in the exponent. -/
def jsonLayout : Layout := ⟨-5, 16, "e+"⟩

/-- Numbers in diagnostics: positional from `1e-4` below `1e16`. -/
def diagnosticLayout : Layout := ⟨-4, 16, "e"⟩

def showFloat32 (x : Float32) : String :=
  if x.isNaN then "NaN"
  else if x.isInf then (if isNegative32 x then "-inf" else "inf")
  else String.ofList (diagnosticLayout.writeBinary (isNegative32 x) (.ofFloat32 x))

example : jsonLayout.writeBinary false ⟨7205759403792794, -56, false⟩ = ['0', '.', '1'] := by
  decide +kernel
example : jsonLayout.writeBinary true ⟨5960464477539062, 24, false⟩ =
    ['-', '1', 'e', '+', '2', '3'] := by decide +kernel
example : diagnosticLayout.writeBinary false ⟨8388608, -22, true⟩ = ['2', '.', '0'] := by
  decide +kernel

end SmsGateway.Number
