namespace SmsGateway.Time

/-- A span of time. -/
structure Span where
  nanos : Nat
  deriving DecidableEq, Repr

namespace Span

def ofMillis (n : Nat) : Span := ⟨n * 1000000⟩

/-- The longest span: `2 ^ 64 - 1` seconds and the nanoseconds up to the next. -/
def longest : Span := ⟨18446744073709551616 * 1000000000 - 1⟩

/-- Decimal places of a remainder, without the zeros at their end. -/
def places (width rest : Nat) : List Char :=
  let digits := Nat.toDigits 10 rest
  let all := List.replicate (width - digits.length) '0' ++ digits
  (all.reverse.dropWhile (· == '0')).reverse

def inUnits (t : Span) (width : Nat) (unit : String) : String :=
  let fraction := places width (t.nanos % Nat.pow 10 width)
  String.ofList (Nat.toDigits 10 (t.nanos / Nat.pow 10 width) ++
    (if fraction = [] then [] else '.' :: fraction)) ++ unit

def text (t : Span) : String :=
  if 1000000000 ≤ t.nanos then t.inUnits 9 "s"
  else if 1000000 ≤ t.nanos then t.inUnits 6 "ms"
  else if 1000 ≤ t.nanos then t.inUnits 3 "µs"
  else t.inUnits 0 "ns"

end Span

end SmsGateway.Time
