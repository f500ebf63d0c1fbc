import SmsGateway.Json.Basic
import SmsGateway.Number.Binary

/-!
Reading a JSON number. `Numeral` holds what the text says; `Numeral.value?` gives its meaning. A
numeral without fraction and exponent is an integer if it fits 64 bits. Every other one is a
floating-point number: as many leading digits as fit an unsigned 64-bit significand, scaled by a
power of ten in floating-point arithmetic. It has no value when it exceeds the range.
-/

namespace SmsGateway.Json

/-- The parts of a number's text: the sign, the digits before and after the point, and the
exponent with its sign. -/
structure Numeral where
  negative : Bool
  whole : List Char
  fraction : List Char
  exponent : Option (Bool × List Char)
  /-- Whether there is a point, so that the number is no integer. -/
  pointed : Bool

def digitsValue (ds : List Char) : Nat :=
  Nat.ofDigitChars 10 ds 0

def takeDigits (s : List Char) : List Char × List Char :=
  (s.takeWhile Char.isDigit, s.dropWhile Char.isDigit)

/-- The fraction after a point, which holds at least one digit. -/
def readFraction : List Char → Option (Option (List Char) × List Char)
  | '.' :: rest =>
      match takeDigits rest with
      | ([], _) => none
      | (ds, rest') => some (some ds, rest')
  | rest => some (none, rest)

def readExponentDigits (negative : Bool) (s : List Char) :
    Option (Option (Bool × List Char) × List Char) :=
  match takeDigits s with
  | ([], _) => none
  | (ds, rest) => some (some (negative, ds), rest)

def readExponent : List Char → Option (Option (Bool × List Char) × List Char)
  | c :: rest =>
      if c = 'e' ∨ c = 'E' then
        match rest with
        | '-' :: rest' => readExponentDigits true rest'
        | '+' :: rest' => readExponentDigits false rest'
        | rest' => readExponentDigits false rest'
      else some (none, c :: rest)
  | [] => some (none, [])

/-- The digits before the point: a zero stands alone. -/
def readWhole (s : List Char) : Option (List Char × List Char) :=
  match takeDigits s with
  | ([], _) => none
  | ('0' :: _ :: _, _) => none
  | (ds, rest) => some (ds, rest)

def readNumeral (s : List Char) : Option (Numeral × List Char) := do
  let negative := s.head? == some '-'
  let (whole, rest) ← readWhole (if negative then s.tail else s)
  let (fraction, rest) ← readFraction rest
  let (exponent, rest) ← readExponent rest
  return (⟨negative, whole, fraction.getD [], exponent, fraction.isSome⟩, rest)

theorem takeDigits_length_lt {s ds rest : List Char} (h : takeDigits s = (ds, rest))
    (hds : ds ≠ []) : rest.length < s.length := by
  simp only [takeDigits, Prod.mk.injEq] at h
  obtain ⟨rfl, rfl⟩ := h
  have hlen := congrArg List.length (List.takeWhile_append_dropWhile (p := Char.isDigit) (l := s))
  have := List.length_pos_iff.2 hds
  simp only [List.length_append] at hlen
  omega

theorem readWhole_length_lt {s ds rest : List Char} (h : readWhole s = some (ds, rest)) :
    rest.length < s.length := by
  unfold readWhole at h
  split at h
  · simp at h
  · simp at h
  · next hne _ htake =>
      simp only [Option.some.injEq, Prod.mk.injEq] at h
      obtain ⟨rfl, rfl⟩ := h
      exact takeDigits_length_lt htake hne

theorem readFraction_length_le {s rest : List Char} {f : Option (List Char)}
    (h : readFraction s = some (f, rest)) : rest.length ≤ s.length := by
  unfold readFraction at h
  split at h
  · split at h
    · simp at h
    · next hne htake =>
        simp only [Option.some.injEq, Prod.mk.injEq] at h
        obtain ⟨_, rfl⟩ := h
        have := takeDigits_length_lt htake hne
        simp only [List.length_cons]
        omega
  · simp only [Option.some.injEq, Prod.mk.injEq] at h
    obtain ⟨_, rfl⟩ := h
    exact Nat.le_refl _

theorem readExponentDigits_length_lt {negative : Bool} {s rest : List Char}
    {e : Option (Bool × List Char)} (h : readExponentDigits negative s = some (e, rest)) :
    rest.length < s.length := by
  unfold readExponentDigits at h
  split at h
  · simp at h
  · next hne htake =>
      simp only [Option.some.injEq, Prod.mk.injEq] at h
      obtain ⟨_, rfl⟩ := h
      exact takeDigits_length_lt htake hne

theorem readExponent_length_le {s rest : List Char} {e : Option (Bool × List Char)}
    (h : readExponent s = some (e, rest)) : rest.length ≤ s.length := by
  unfold readExponent at h
  split at h
  · split at h
    · split at h <;>
      · have := readExponentDigits_length_lt h
        simp only [List.length_cons] at this ⊢
        omega
    · simp only [Option.some.injEq, Prod.mk.injEq] at h
      obtain ⟨_, rfl⟩ := h
      exact Nat.le_refl _
  · simp only [Option.some.injEq, Prod.mk.injEq] at h
    obtain ⟨_, rfl⟩ := h
    exact Nat.le_refl _

theorem readNumeral_length_lt {s rest : List Char} {n : Numeral}
    (h : readNumeral s = some (n, rest)) : rest.length < s.length := by
  simp only [readNumeral, bind, Option.bind_eq_some_iff, pure, Option.some.injEq, Prod.mk.injEq,
    Prod.exists] at h
  obtain ⟨_, r₁, hwhole, _, r₂, hfraction, _, r₃, hexponent, _, rfl⟩ := h
  have h₁ := readWhole_length_lt hwhole
  have h₂ := readFraction_length_le hfraction
  have h₃ := readExponent_length_le hexponent
  split at h₁
  · have := List.length_tail (l := s)
    omega
  · omega

/-- Continues a significand with as many digits as keep it below `2 ^ 64`; the digits from the
first that does not fit are only counted. -/
def significand : Nat → List Char → Nat × Nat
  | n, [] => (n, 0)
  | n, d :: ds =>
      let next := n * 10 + (d.toNat - '0'.toNat)
      if next < 18446744073709551616 then significand next ds else (n, ds.length + 1)

/-- Ten to a power, as a floating-point number. -/
def powerOfTen (k : Nat) : Float :=
  Number.ofDecimal 1 k

/-- Scales a number by a power of ten, in steps that stay within the range of powers. -/
def scale? (x : Float) (exponent : Int) : Option Float :=
  if h : exponent < -308 then
    if x == 0.0 then some x else scale? (x / powerOfTen 308) (exponent + 308)
  else if exponent < 0 then some (x / powerOfTen (-exponent).toNat)
  else if exponent ≤ 308 then
    let y := x * powerOfTen exponent.toNat
    if y.isInf then none else some y
  else if x == 0.0 then some x
  else none
termination_by exponent.natAbs
decreasing_by omega

/-- The magnitude of a numeral as a floating-point number. An exponent beyond 32 bits leaves zero
or exceeds the range. -/
def Numeral.magnitude? (t : Numeral) : Option Float :=
  let (n, dropped) := significand 0 t.whole
  let (n, ignored) := significand n t.fraction
  let shift : Int := dropped - (t.fraction.length - ignored : Nat)
  match t.exponent with
  | none => scale? (Float.ofNat n) shift
  | some (negative, ds) =>
      let power := digitsValue ds
      if power < 2147483648 then
        scale? (Float.ofNat n) (if negative then shift - power else shift + power)
      else if n = 0 ∨ negative then some 0.0
      else none

/-- The number that a numeral stands for, if it is within range. -/
def Numeral.value? (t : Numeral) : Option Number :=
  let n := digitsValue t.whole
  let integral := !t.pointed && t.exponent.isNone
  if integral && !t.negative && decide (n < 18446744073709551616) then some (.int n)
  else if integral && t.negative && decide (0 < n) && decide (n ≤ 9223372036854775808) then
    some (.int (-n))
  else t.magnitude?.map fun x => .real (if t.negative then -x else x)

end SmsGateway.Json
