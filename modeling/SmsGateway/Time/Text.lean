import SmsGateway.Time.Instant
import SmsGateway.Text.Blank

/-!
The text of an instant. Writing takes the shortest of no, three, six or nine fraction digits that
is exact, and gives years outside of four digits a sign. Reading takes more: blanks around the
numbers, one-digit numbers, fractions of any length, and offsets from universal time.
-/

namespace SmsGateway.Time

open SmsGateway.Text

/-- A number with at least `width` digits. -/
def padded (width n : Nat) : List Char :=
  let digits := Nat.toDigits 10 n
  List.replicate (width - digits.length) '0' ++ digits

/-- A year: four digits, or a sign and at least four digits. -/
def yearChars (year : Int) : List Char :=
  if 0 ≤ year ∧ year ≤ 9999 then padded 4 year.toNat
  else (if year < 0 then '-' else '+') :: padded 4 year.natAbs

def fractionChars (nano : Nat) : List Char :=
  if nano = 0 then []
  else if nano % 1000000 = 0 then '.' :: padded 3 (nano / 1000000)
  else if nano % 1000 = 0 then '.' :: padded 6 (nano / 1000)
  else '.' :: padded 9 nano

namespace Instant

/-- The text of an instant up to its offset. A leap second is second 60. -/
def localChars (t : Instant) : List Char :=
  yearChars t.date.year ++ '-' :: padded 2 t.date.month ++ '-' :: padded 2 t.date.day ++
    'T' :: padded 2 (t.second / 3600) ++ ':' :: padded 2 (t.second / 60 % 60) ++
      ':' :: padded 2 (t.second % 60 + t.nano / secondNanos) ++
        fractionChars (t.nano % secondNanos)

def chars (t : Instant) : List Char :=
  t.localChars ++ ['Z']

def text (t : Instant) : String :=
  String.ofList t.chars

/-- The text of an instant with a numeric offset, as the event log keeps it. -/
def offsetText (t : Instant) : String :=
  String.ofList (t.localChars ++ "+00:00".toList)

end Instant

/-- Between one and `most` digits, as a number, and how many digits there were. -/
def readDigits (most : Nat) (s : List Char) : Option ((Nat × Nat) × List Char) :=
  let digits := (s.take most).takeWhile Char.isDigit
  if digits = [] then none
  else some ((Nat.ofDigitChars 10 digits 0, digits.length), s.drop digits.length)

/-- A number of one or two digits, blanks allowed before it. -/
def readPair (s : List Char) : Option (Nat × List Char) :=
  (readDigits 2 (dropBlanks s)).map fun (n, rest) => (n.1, rest)

/-- A year: up to four digits, or a sign and any number of digits. -/
def readYear (s : List Char) : Option (Int × List Char) :=
  match dropBlanks s with
  | '-' :: rest => (readDigits rest.length rest).map fun (n, rest) => (-(n.1 : Int), rest)
  | '+' :: rest => (readDigits rest.length rest).map fun (n, rest) => ((n.1 : Int), rest)
  | rest => (readDigits 4 rest).map fun (n, rest) => ((n.1 : Int), rest)

/-- A separator, blanks allowed before it. -/
def readMark (mark : Char) (s : List Char) : Option (List Char) :=
  match dropBlanks s with
  | c :: rest => if c = mark then some rest else none
  | [] => none

/-- A day as year, month and day. -/
def readDate (s : List Char) : Option ((Int × Nat × Nat) × List Char) := do
  let (year, s) ← readYear s
  let s ← readMark '-' s
  let (month, s) ← readPair s
  let s ← readMark '-' s
  let (day, s) ← readPair s
  return ((year, month, day), s)

/-- The nanoseconds of a fraction, if one follows; digits after the ninth are dropped. -/
def readFraction : List Char → Option (Nat × List Char)
  | '.' :: rest =>
      (readDigits 9 rest).map fun ((n, count), rest') =>
        (n * Nat.pow 10 (9 - count), rest'.dropWhile Char.isDigit)
  | s => some (0, s)

/-- A time of day: hour, minute, second and nanosecond, blanks allowed after it. -/
def readTime (s : List Char) : Option ((Nat × Nat × Nat × Nat) × List Char) := do
  let (hour, s) ← readPair s
  let s ← readMark ':' s
  let (minute, s) ← readPair s
  let s ← readMark ':' s
  let (second, s) ← readPair s
  let (nano, s) ← readFraction s
  return ((hour, minute, second, nano), dropBlanks s)

/-- Hours and minutes of an offset as seconds, with colons or blanks or nothing between. -/
def readOffsetSize (s : List Char) : Option (Nat × List Char) :=
  match s with
  | h1 :: h2 :: rest =>
      match rest.dropWhile fun c => c == ':' || isBlank c with
      | m1 :: m2 :: rest' =>
          if [h1, h2, m1, m2].all Char.isDigit && m1 ≤ '5' then
            let hours := Nat.ofDigitChars 10 [h1, h2] 0
            some (hours * 3600 + Nat.ofDigitChars 10 [m1, m2] 0 * 60, rest')
          else none
      | _ => none
  | _ => none

def readOffset : List Char → Option (Int × List Char)
  | 'Z' :: rest => some (0, rest)
  | 'z' :: rest => some (0, rest)
  | '+' :: rest => (readOffsetSize rest).map fun (n, rest) => ((n : Int), rest)
  | '-' :: rest => (readOffsetSize rest).map fun (n, rest) => (-(n : Int), rest)
  | '\u2212' :: rest => (readOffsetSize rest).map fun (n, rest) => (-(n : Int), rest)
  | u :: t :: c :: rest =>
      if [u, t, c].map Char.toUpper = ['U', 'T', 'C'] then some (0, rest) else none
  | _ => none

/-- The second of the day and the nanosecond of a time of day; second 60 is a leap second. -/
def timeOfDay? (hour minute second nano : Nat) : Option (Nat × Nat) :=
  if hour < 24 ∧ minute < 60 ∧ second ≤ 60 then
    if second = 60 then some (hour * 3600 + minute * 60 + 59, nano + secondNanos)
    else some (hour * 3600 + minute * 60 + second, nano)
  else none

def Instant.ofChars? (s : List Char) : Option Instant := do
  let ((year, month, day), s) ← readDate s
  let s ← match s with
    | c :: rest => if c = 'T' ∨ c = 't' ∨ c = ' ' then some rest else none
    | [] => none
  let ((hour, minute, second, nano), s) ← readTime s
  let (offset, s) ← readOffset s
  if dropBlanks s ≠ [] ∨ daySeconds ≤ offset.natAbs then none
  else
    let date ← Date.ofParts? year month day
    let (second, nano) ← timeOfDay? hour minute second nano
    Instant.ofLocal? date second nano offset

def Instant.ofText? (s : String) : Option Instant :=
  Instant.ofChars? s.toList

end SmsGateway.Time
