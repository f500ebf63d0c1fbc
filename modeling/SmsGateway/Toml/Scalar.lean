import SmsGateway.Number.Binary
import SmsGateway.Text.Hex
import SmsGateway.Toml.Basic

namespace SmsGateway.TomlText

open SmsGateway.Text SmsGateway.Number

/-- What a reader gives: what it read, and the rest. -/
abbrev Reader (α : Type) := List Char → Option (α × List Char)

def isBlank (c : Char) : Bool := c == ' ' || c == '\t'

def skipBlanks (s : List Char) : List Char :=
  s.dropWhile isBlank

def newline? : List Char → Option (List Char)
  | '\n' :: rest => some rest
  | '\r' :: '\n' :: rest => some rest
  | _ => none

def isVisible (c : Char) : Bool :=
  c == '\t' || (0x20 ≤ c.toNat && c.toNat != 0x7F)

def skipComment : List Char → List Char
  | '#' :: rest => rest.dropWhile isVisible
  | s => s

/-- A character by some hexadecimal digits, of which there have to be `n`. -/
def numbered (n : Nat) (s : List Char) : Option (Char × List Char) := do
  if s.length < n then none
  let digits ← (s.take n).mapM hexValue?
  let code := digits.foldl (fun acc d => 16 * acc + d) 0
  if code < 0xD800 ∨ (0xDFFF < code ∧ code < 0x110000) then
    return (Char.ofNat code, s.drop n)
  else none

def escaped : Reader Char
  | 'b' :: rest => some ('\x08', rest)
  | 't' :: rest => some ('\t', rest)
  | 'n' :: rest => some ('\n', rest)
  | 'f' :: rest => some ('\x0C', rest)
  | 'r' :: rest => some ('\r', rest)
  | '"' :: rest => some ('"', rest)
  | '\\' :: rest => some ('\\', rest)
  | 'u' :: rest => numbered 4 rest
  | 'U' :: rest => numbered 8 rest
  | _ => none

/-- The rest of a string on one line. The first number bounds the characters read. -/
def basicTail : Nat → List Char → Option (List Char × List Char)
  | 0, _ => none
  | _ + 1, '"' :: rest => some ([], rest)
  | n + 1, '\\' :: rest => do
      let (c, rest) ← escaped rest
      let (cs, rest) ← basicTail n rest
      return (c :: cs, rest)
  | n + 1, c :: rest => do
      if !isVisible c then none
      let (cs, rest) ← basicTail n rest
      return (c :: cs, rest)
  | _ + 1, [] => none

def literalTail (s : List Char) : Option (List Char × List Char) :=
  let body := s.takeWhile fun c => isVisible c && c != '\''
  match s.drop body.length with
  | '\'' :: rest => some (body, rest)
  | _ => none

def skipBlankLines : List Char → List Char
  | '\r' :: '\n' :: rest => skipBlankLines rest
  | c :: rest => if isBlank c || c == '\n' then skipBlankLines rest else c :: rest
  | [] => []

def continued? (s : List Char) : Option (List Char) :=
  (newline? (skipBlanks s)).map skipBlankLines

/-- The end of a string of many lines: three quotation marks, before which two may stand that
belong to the string. -/
def closing? (mark : Char) (s : List Char) : Option (List Char × List Char) :=
  let marks := s.takeWhile (· == mark)
  if 3 ≤ marks.length ∧ marks.length ≤ 5 then
    some (marks.drop 3, s.drop marks.length)
  else if 5 < marks.length then some (marks.take 2, s.drop 5)
  else none

/-- The rest of a string of many lines, with escapes or without. The first number bounds the
characters read. -/
def linesTail (mark : Char) (escapes : Bool) : Nat → List Char → Option (List Char × List Char)
  | 0, _ => none
  | n + 1, s =>
      match closing? mark s with
      | some r => some r
      | none =>
          match s with
          | [] => none
          | '\r' :: '\n' :: rest => do
              let (cs, rest) ← linesTail mark escapes n rest
              return ('\n' :: cs, rest)
          | '\n' :: rest => do
              let (cs, rest) ← linesTail mark escapes n rest
              return ('\n' :: cs, rest)
          | c :: rest =>
              if escapes && c == '\\' then
                match continued? rest with
                | some rest => linesTail mark escapes n rest
                | none => do
                    let (c, rest) ← escaped rest
                    let (cs, rest) ← linesTail mark escapes n rest
                    return (c :: cs, rest)
              else do
                if !isVisible c then none
                let (cs, rest) ← linesTail mark escapes n rest
                return (c :: cs, rest)

/-- A string of many lines after its opening marks. A line end right after them is left out. -/
def linesString (mark : Char) (escapes : Bool) (s : List Char) : Option (String × List Char) :=
  let s := (newline? s).getD s
  (linesTail mark escapes (s.length + 1) s).map fun r => (String.ofList r.1, r.2)

def lineString : Reader String
  | '"' :: rest => (basicTail (rest.length + 1) rest).map fun r => (String.ofList r.1, r.2)
  | '\'' :: rest => (literalTail rest).map fun r => (String.ofList r.1, r.2)
  | _ => none

def string : Reader String
  | '"' :: '"' :: '"' :: rest => linesString '"' true rest
  | '\'' :: '\'' :: '\'' :: rest => linesString '\'' false rest
  | s => lineString s

/-- Digits with single underscores between them, without the underscores. -/
def digits (isDigit : Char → Bool) : List Char → Option (List Char × List Char)
  | [] => none
  | c :: '_' :: d :: rest =>
      if !isDigit c then none
      else if isDigit d then (digits isDigit (d :: rest)).map fun r => (c :: r.1, r.2)
      else some ([c], '_' :: d :: rest)
  | c :: rest =>
      if !isDigit c then none
      else
        match digits isDigit rest with
        | some (cs, rest) => some (c :: cs, rest)
        | none => some ([c], rest)

def valueIn (base : Nat) (ds : List Char) : Nat :=
  ds.foldl (fun n c => base * n + (hexValue? c).getD 0) 0

/-- A sign, if one stands there; `true` for a minus. -/
def sign : List Char → Bool × Option Char × List Char
  | '+' :: rest => (false, some '+', rest)
  | '-' :: rest => (true, some '-', rest)
  | s => (false, none, s)

/-- The digits of a decimal integer, which have no needless zero in front. -/
def decimalDigits (s : List Char) : Option (List Char × List Char) :=
  match s with
  | '0' :: rest => some (['0'], rest)
  | _ => digits Char.isDigit s

def bounded (n : Int) (rest : List Char) : Option (Toml × List Char) :=
  if -9223372036854775808 ≤ n ∧ n < 9223372036854775808 then some (Toml.whole n, rest) else none

def based (base : Nat) (isDigit : Char → Bool) (s : List Char) : Option (Toml × List Char) := do
  let (ds, rest) ← digits isDigit s
  bounded (valueIn base ds) rest

def integer : Reader Toml
  | '0' :: 'x' :: rest => based 16 (fun c => (hexValue? c).isSome) rest
  | '0' :: 'o' :: rest => based 8 (fun c => '0' ≤ c && c ≤ '7') rest
  | '0' :: 'b' :: rest => based 2 (fun c => c == '0' || c == '1') rest
  | s => do
      let (negative, _, s) := sign s
      let (ds, rest) ← decimalDigits s
      let n : Int := valueIn 10 ds
      bounded (if negative then -n else n) rest

def exponent? : Reader Int
  | c :: rest => do
      if c ≠ 'e' ∧ c ≠ 'E' then none
      let (negative, _, rest) := sign rest
      let (ds, rest) ← digits Char.isDigit rest
      let n : Int := valueIn 10 ds
      return (if negative then -n else n, rest)
  | [] => none

/-- A floating-point number by its digits; infinity beyond the range is no number, unless it is
negative. -/
def realOf (negative : Bool) (whole fraction : List Char) (exponent : Int) (rest : List Char) :
    Option (Toml × List Char) :=
  let x := ofDecimal (valueIn 10 (whole ++ fraction)) (exponent - fraction.length)
  if negative then some (Toml.real (-x), rest)
  else if x.isInf then none
  else some (Toml.real x, rest)

/-- A floating-point number that is not a number or is infinite. -/
def special (negative : Bool) : Reader Toml
  | 'i' :: 'n' :: 'f' :: rest =>
      some (Toml.real (Float.ofBits (if negative then 0xFFF0000000000000 else 0x7FF0000000000000)),
        rest)
  | 'n' :: 'a' :: 'n' :: rest =>
      some (Toml.nan negative, rest)
  | _ => none

/-- A floating-point number: digits with a fraction, an exponent or both. -/
def float (s : List Char) : Option (Toml × List Char) :=
  let (negative, _, s) := sign s
  match special negative s with
  | some r => some r
  | none => do
      let (whole, rest) ← decimalDigits s
      match rest with
      | '.' :: rest =>
          let (fraction, rest) ← digits Char.isDigit rest
          match exponent? rest with
          | some (e, rest) => realOf negative whole fraction e rest
          | none => realOf negative whole fraction 0 rest
      | _ =>
          let (e, rest) ← exponent? rest
          realOf negative whole [] e rest

/-- A number of exactly `n` digits. -/
def fixed (n : Nat) (s : List Char) : Option (Nat × List Char) :=
  let ds := s.take n
  if ds.length = n ∧ ds.all Char.isDigit then some (valueIn 10 ds, s.drop n) else none

def after (c : Char) : List Char → Option (List Char)
  | d :: rest => if c = d then some rest else none
  | [] => none

def daysIn (year month : Nat) : Nat :=
  let leap := year % 4 = 0 ∧ (year % 100 ≠ 0 ∨ year % 400 = 0)
  if month = 2 then (if leap then 29 else 28)
  else if month ∈ [4, 6, 9, 11] then 30
  else 31

def date (s : List Char) : Option (List Char) := do
  let (year, s) ← fixed 4 s
  let (month, s) ← fixed 2 (← after '-' s)
  let (day, s) ← fixed 2 (← after '-' s)
  if 1 ≤ month ∧ month ≤ 12 ∧ 1 ≤ day ∧ day ≤ daysIn year month then some s else none

def time (s : List Char) : Option (List Char) := do
  let (hour, s) ← fixed 2 s
  let (minute, s) ← fixed 2 (← after ':' s)
  let (second, s) ← fixed 2 (← after ':' s)
  if 23 < hour ∨ 59 < minute ∨ 60 < second then none
  match s with
  | '.' :: rest =>
      let fraction := rest.takeWhile Char.isDigit
      if fraction = [] then none else some (rest.drop fraction.length)
  | _ => some s

/-- The distance of a time from the universal one, if it is given. -/
def offset (s : List Char) : Option (List Char) :=
  match s with
  | 'Z' :: rest | 'z' :: rest => some rest
  | '+' :: rest | '-' :: rest => do
      let (hour, s) ← fixed 2 rest
      let (minute, s) ← fixed 2 (← after ':' s)
      if 23 < hour ∨ 59 < minute then none else some s
  | _ => some s

def joinsTime (c : Char) : Bool :=
  c == 'T' || c == 't' || c == ' '

/-- A date, a time, or a date with a time. -/
def moment (s : List Char) : Option (Toml × List Char) :=
  match date s with
  | some rest =>
      match rest with
      | c :: more =>
          if joinsTime c then
            match time more with
            | some more => (offset more).map fun rest => (Toml.moment, rest)
            | none => some (Toml.moment, rest)
          else some (Toml.moment, rest)
      | [] => some (Toml.moment, rest)
  | none => (time s).map fun rest => (Toml.moment, rest)

/-- A number, a date or a time. -/
def number (s : List Char) : Option (Toml × List Char) :=
  moment s <|> float s <|> integer s

/-- Whether a character may stand in a key without quotation marks. -/
def isBare (c : Char) : Bool :=
  c.isAlphanum || c == '_' || c == '-'

def name (s : List Char) : Option (String × List Char) :=
  match s with
  | '"' :: _ | '\'' :: _ => lineString s
  | _ =>
      let bare := s.takeWhile isBare
      if bare = [] then none else some (String.ofList bare, s.drop bare.length)

/-- The greatest number of names in a key, and of values within each other. -/
def maxNesting : Nat := 79

/-- The names of a key, with dots between them. The first number bounds the names. -/
def names : Nat → List Char → Option (List String × List Char)
  | 0, _ => none
  | n + 1, s => do
      let (first, rest) ← name (skipBlanks s)
      match skipBlanks rest with
      | '.' :: rest =>
          let (others, rest) ← names n rest
          return (first :: others, rest)
      | rest => return ([first], rest)

/-- A key: the path to a table and the last name. -/
def key (s : List Char) : Option ((List String × String) × List Char) := do
  let (all, rest) ← names maxNesting s
  let last ← all.getLast?
  return ((all.dropLast, last), rest)

end SmsGateway.TomlText
