namespace SmsGateway.Url.Punycode

def digit? (c : Char) : Option Nat :=
  if 'a' ≤ c ∧ c ≤ 'z' then some (c.toNat - 97)
  else if '0' ≤ c ∧ c ≤ '9' then some (c.toNat - 22)
  else none

/-- The threshold of the digit at a distance of `k` from the first one. -/
def threshold (k bias : Nat) : Nat :=
  if k ≤ bias then 1 else if bias + 26 ≤ k then 26 else k - bias

/-- The bias after a distance, by how large the distance is. -/
def settle (delta k : Nat) : Nat :=
  if h : 455 < delta then settle (delta / 35) (k + 36) else k + 36 * delta / (delta + 38)
termination_by delta
decreasing_by exact Nat.div_lt_self (by omega) (by omega)

/-- The bias after a distance to a character of a name of `count` characters. -/
def adapt (delta count : Nat) (first : Bool) : Nat :=
  let delta := if first then delta / 700 else delta / 2
  settle (delta + delta / count) 0

def maxDistance : Nat := 4294967295

def distance (bias : Nat) : (k weight acc : Nat) → List Char → Option (Nat × List Char)
  | _, _, _, [] => none
  | k, weight, acc, c :: rest => do
      let d ← digit? c
      let acc := acc + d * weight
      if maxDistance < acc then none
      let t := threshold k bias
      if d < t then return (acc, rest)
      else distance bias (k + 36) (weight * (36 - t)) acc rest

/-- Where the next character of a name is counted from. -/
structure Cursor where
  code : Nat
  position : Nat
  bias : Nat
  first : Bool

/-- Puts characters into a name, each at its distance from the one before it. The first number
bounds the characters. -/
def fill : Nat → Cursor → List Char → List Char → Option (List Char)
  | _, _, name, [] => some name
  | 0, _, _, _ => none
  | n + 1, cursor, name, digits => do
      let (d, rest) ← distance cursor.bias 36 1 0 digits
      let count := name.length + 1
      let i := cursor.position + d
      let code := cursor.code + i / count
      let position := i % count
      if 0x10FFFF < code ∨ (0xD800 ≤ code ∧ code ≤ 0xDFFF) then none
      let name := name.take position ++ Char.ofNat code :: name.drop position
      fill n ⟨code, position + 1, adapt d count cursor.first, false⟩ name rest

/-- The name that a text in lower case stands for. Its ASCII characters come first, with a hyphen
after them. -/
def decode? (s : List Char) : Option (List Char) :=
  let digits := (s.reverse.takeWhile (· != '-')).reverse
  let plain := (s.take (s.length - digits.length)).dropLast
  if plain.all (·.toNat < 128) then fill (digits.length + 1) ⟨128, 0, 72, true⟩ plain digits
  else none

end SmsGateway.Url.Punycode
