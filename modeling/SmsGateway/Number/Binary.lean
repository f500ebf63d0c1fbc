/-!
Floating-point numbers as exact values: `mantissa · 2 ^ exponent`, read off the bits of the two
widths in use. What is printed and what is rounded is computed from these exact values.
-/

namespace SmsGateway.Number

/-- A finite binary number without its sign. `boundary` tells that the next number below it is only
half as far away as the next one above. -/
structure Binary where
  mantissa : Nat
  exponent : Int
  boundary : Bool
  deriving Repr, DecidableEq

/-- Reads `fractionBits` of fraction and the exponent above them. -/
def Binary.ofBits (fractionBits bias bits : Nat) : Binary :=
  let fraction := bits % Nat.pow 2 fractionBits
  let exponent := bits / Nat.pow 2 fractionBits
  if exponent = 0 then ⟨fraction, 1 - (bias + fractionBits : Nat), false⟩
  else
    ⟨fraction + Nat.pow 2 fractionBits, (exponent : Int) - (bias + fractionBits : Nat),
      fraction == 0 && decide (1 < exponent)⟩

def Binary.ofFloat (x : Float) : Binary :=
  .ofBits 52 1023 (x.toBits.toNat % 9223372036854775808)

def Binary.ofFloat32 (x : Float32) : Binary :=
  .ofBits 23 127 (x.toBits.toNat % 2147483648)

/-- Whether the sign bit of a 64-bit number is set; zeros and not-a-numbers have one too. -/
def isNegative (x : Float) : Bool :=
  9223372036854775808 ≤ x.toBits.toNat

def isNegative32 (x : Float32) : Bool :=
  2147483648 ≤ x.toBits.toNat

/-- The quotient of two numbers to the nearest integer, a half to the even neighbour. -/
def divNearestEven (num den : Nat) : Nat :=
  let q := num / den
  let r := num % den
  if 2 * r < den then q
  else if den < 2 * r then q + 1
  else if q % 2 = 0 then q else q + 1

/-- `scale` times the number, to the nearest integer, a half to the even neighbour. -/
def Binary.scaled (b : Binary) (scale : Nat) : Nat :=
  if 0 ≤ b.exponent then b.mantissa * scale * Nat.pow 2 b.exponent.toNat
  else divNearestEven (b.mantissa * scale) (Nat.pow 2 (-b.exponent).toNat)

/-- The 64-bit number nearest to `digits · 10 ^ exponent`; infinity beyond the range. -/
def ofDecimal (digits : Nat) (exponent : Int) : Float :=
  let size : Int := (Nat.toDigits 10 digits).length
  if digits = 0 ∨ size + exponent < -400 then 0.0
  else if 400 < size + exponent then Float.ofBits 0x7FF0000000000000
  else if 0 ≤ exponent then Float.ofNat (digits * Nat.pow 10 exponent.toNat)
  else Float.ofScientific digits true (-exponent).toNat

end SmsGateway.Number
