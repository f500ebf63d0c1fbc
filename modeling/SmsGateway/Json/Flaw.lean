import SmsGateway.Json.Document
import SmsGateway.Json.Writer
import SmsGateway.Text.Quoted
import SmsGateway.Text.Utf8

/-!
Why a text is refused, and where. A text that `Document.parse` refuses, or that holds something
other than what is asked for, is walked through once more up to its first flaw. A place is a line
and the number of bytes of that line that were read; where the flaw is a byte that was only looked
at, that byte counts as read.
-/

namespace SmsGateway.Json

open SmsGateway.Text

/-- What is wrong with a text. -/
inductive FlawKind where
  | unfinishedValue
  | unfinishedList
  | unfinishedObject
  | unfinishedString
  | colonMissing
  | listCommaMissing
  | objectCommaMissing
  | wordMisspelt
  | valueMissing
  | escapeUnknown
  | numberMalformed
  | numberTooLarge
  | controlCharacter
  | nameNotText
  | surrogateAlone
  | pairUnfinished
  | commaAtEnd
  | textAfterEnd
  | nestedTooDeep
  /-- Something else stands where something was expected. -/
  | otherType (found expected : String)
  | fieldMissing (name : String)
  | fieldRepeated (name : String)
  | notInstant (reason : String)
  deriving DecidableEq, Repr

def FlawKind.text : FlawKind → String
  | .unfinishedValue => "EOF while parsing a value"
  | .unfinishedList => "EOF while parsing a list"
  | .unfinishedObject => "EOF while parsing an object"
  | .unfinishedString => "EOF while parsing a string"
  | .colonMissing => "expected \x60:\x60"
  | .listCommaMissing => "expected \x60,\x60 or \x60]\x60"
  | .objectCommaMissing => "expected \x60,\x60 or \x60\x7d\x60"
  | .wordMisspelt => "expected ident"
  | .valueMissing => "expected value"
  | .escapeUnknown => "invalid escape"
  | .numberMalformed => "invalid number"
  | .numberTooLarge => "number out of range"
  | .controlCharacter => "control character (\\u0000-\\u001F) found while parsing a string"
  | .nameNotText => "key must be a string"
  | .surrogateAlone => "lone leading surrogate in hex escape"
  | .pairUnfinished => "unexpected end of hex escape"
  | .commaAtEnd => "trailing comma"
  | .textAfterEnd => "trailing characters"
  | .nestedTooDeep => "recursion limit exceeded"
  | .otherType found expected => "invalid type: " ++ found ++ ", expected " ++ expected
  | .fieldMissing name => "missing field \x60" ++ name ++ "\x60"
  | .fieldRepeated name => "duplicate field \x60" ++ name ++ "\x60"
  | .notInstant reason => reason

/-- A flaw: what is wrong, the part of the text that was not read, and how many bytes of that part
were looked at. -/
structure Flaw where
  kind : FlawKind
  unread : List Char
  seen : Nat

/-- The line and the bytes read of it, after some bytes. -/
def place (bs : List UInt8) : Nat × Nat :=
  (bs.count 10 + 1, (bs.reverse.takeWhile (· != 10)).length)

def Flaw.text (f : Flaw) (s : List Char) : String :=
  let whole := bytes (String.ofList s)
  let unread := bytes (String.ofList f.unread)
  let (line, column) := place (whole.take (whole.length - unread.length + f.seen))
  f.kind.text ++ s!" at line {line} column {column}"

/-- What is left of a text after a part without a flaw, or the flaw of the part. -/
abbrev Walk := Except Flaw (List Char)

def endFlaw (kind : FlawKind) : Walk :=
  .error ⟨kind, [], 0⟩

def nextFlaw (kind : FlawKind) (s : List Char) : Walk :=
  .error ⟨kind, s, 1⟩

/-- Walks over four hexadecimal digits and gives the number they stand for. -/
def walkUnit (s : List Char) : Except Flaw (Nat × List Char) :=
  match readUnit s with
  | some r => .ok r
  | none =>
      if (bytes (String.ofList (s.take 4))).length < 4 then .error ⟨.unfinishedString, [], 0⟩
      else .error ⟨.escapeUnknown, s, 4⟩

def walkLowSurrogate : List Char → Walk
  | [] | ['\\'] => endFlaw .unfinishedString
  | '\\' :: 'u' :: rest => do
      let (n, rest) ← walkUnit rest
      if 0xDC00 ≤ n ∧ n ≤ 0xDFFF then .ok rest else .error ⟨.surrogateAlone, rest, 0⟩
  | '\\' :: rest | rest => nextFlaw .pairUnfinished rest

def walkEscape : List Char → Walk
  | [] => endFlaw .unfinishedString
  | 'u' :: rest => do
      let (n, rest) ← walkUnit rest
      if 0xDC00 ≤ n ∧ n ≤ 0xDFFF then .error ⟨.surrogateAlone, rest, 0⟩
      else if 0xD800 ≤ n ∧ n ≤ 0xDBFF then walkLowSurrogate rest
      else .ok rest
  | c :: rest => if c ∈ ['"', '\\', '/', 'b', 'f', 'n', 'r', 't'] then .ok rest
      else nextFlaw .escapeUnknown (c :: rest)

/-- Walks over a string, after its opening quote. The number bounds the escapes. -/
def walkString : Nat → List Char → Walk
  | 0, s => .ok s
  | n + 1, s =>
      match s.dropWhile isPlain with
      | [] => endFlaw .unfinishedString
      | '"' :: rest => .ok rest
      | '\\' :: rest => do walkString n (← walkEscape rest)
      | rest => nextFlaw .controlCharacter rest

def walkWord : List Char → List Char → Walk
  | [], s => .ok s
  | _ :: _, [] => endFlaw .unfinishedValue
  | w :: ws, c :: s => if w = c then walkWord ws s else nextFlaw .wordMisspelt (c :: s)

def walkDigits (s : List Char) : Walk :=
  match takeDigits s with
  | ([], []) => endFlaw .unfinishedValue
  | ([], rest) => nextFlaw .numberMalformed rest
  | (_, rest) => .ok rest

/-- Walks over the digits before a point: a zero stands alone. -/
def walkWhole (s : List Char) : Walk :=
  match s with
  | '0' :: rest =>
      if rest.head?.any Char.isDigit then nextFlaw .numberMalformed rest else .ok rest
  | _ => walkDigits s

/-- What is left after as many digits of an exponent as exceed 31 bits, if there are so many. -/
def beyondExponent : Nat → List Char → Option (List Char)
  | _, [] => none
  | n, c :: rest =>
      if !c.isDigit then none
      else
        let next := 10 * n + (c.toNat - '0'.toNat)
        if next < 2147483648 then beyondExponent next rest else some rest

/-- Walks over an exponent, if one follows; gives where reading stops if it is too large. -/
def walkExponent : List Char → Except Flaw (Option (List Char) × List Char)
  | c :: rest =>
      if c = 'e' ∨ c = 'E' then do
        let digits := if rest.head?.any (· ∈ ['+', '-']) then rest.tail else rest
        return (beyondExponent 0 digits, ← walkDigits digits)
      else .ok (none, c :: rest)
  | [] => .ok (none, [])

def walkNumber (s : List Char) : Walk := do
  let rest ← walkWhole (if s.head? = some '-' then s.tail else s)
  let rest ← match rest with
    | '.' :: rest => walkDigits rest
    | rest => .ok rest
  let (stop, rest) ← walkExponent rest
  match (readNumeral s).bind fun t => t.1.value? with
  | some _ => .ok rest
  | none => .error ⟨.numberTooLarge, stop.getD rest, 0⟩

def walkColon (s : List Char) : Walk :=
  match skipSpace s with
  | ':' :: rest => .ok rest
  | [] => endFlaw .unfinishedObject
  | rest => nextFlaw .colonMissing rest

/-- Walks to the next item, over a comma unless it is the first; `none` after the last. -/
def nextItem (first : Bool) (s : List Char) : Except Flaw (Option (List Char)) :=
  match skipSpace s, first with
  | [], _ => .error ⟨.unfinishedList, [], 0⟩
  | ']' :: _, _ => .ok none
  | ',' :: rest, false =>
      match skipSpace rest with
      | [] => .error ⟨.unfinishedValue, [], 0⟩
      | ']' :: rest => .error ⟨.commaAtEnd, ']' :: rest, 1⟩
      | rest => .ok (some rest)
  | rest, true => .ok (some rest)
  | rest, false => .error ⟨.listCommaMissing, rest, 1⟩

/-- Walks to the next name and over its opening quote, over a comma unless it is the first; `none`
after the last. -/
def nextName (first : Bool) (s : List Char) : Except Flaw (Option (List Char)) :=
  let name (s : List Char) : Except Flaw (Option (List Char)) :=
    match s with
    | [] => .error ⟨.unfinishedValue, [], 0⟩
    | '"' :: rest => .ok (some rest)
    | '\x7d' :: _ => .error ⟨.commaAtEnd, s, 1⟩
    | _ => .error ⟨.nameNotText, s, 1⟩
  match skipSpace s, first with
  | [], _ => .error ⟨.unfinishedObject, [], 0⟩
  | '\x7d' :: _, _ => .ok none
  | ',' :: rest, false => name (skipSpace rest)
  | rest, true => name rest
  | rest, false => .error ⟨.objectCommaMissing, rest, 1⟩

mutual

/-- Walks over a value that is nested at most so deep. The first number bounds the steps. -/
def walkValue : Nat → Nat → List Char → Walk
  | 0, _, s => .ok s
  | n + 1, depth, s =>
      match skipSpace s with
      | [] => endFlaw .unfinishedValue
      | 'n' :: rest => walkWord ['u', 'l', 'l'] rest
      | 't' :: rest => walkWord ['r', 'u', 'e'] rest
      | 'f' :: rest => walkWord ['a', 'l', 's', 'e'] rest
      | '"' :: rest => walkString n rest
      | '[' :: rest =>
          if depth = 0 then nextFlaw .nestedTooDeep ('[' :: rest)
          else walkItems n (depth - 1) true rest
      | '\x7b' :: rest =>
          if depth = 0 then nextFlaw .nestedTooDeep ('\x7b' :: rest)
          else walkFields n (depth - 1) true rest
      | c :: rest =>
          if c = '-' ∨ c.isDigit then walkNumber (c :: rest) else nextFlaw .valueMissing (c :: rest)

def walkItems : Nat → Nat → Bool → List Char → Walk
  | 0, _, _, s => .ok s
  | n + 1, depth, first, s => do
      match ← nextItem first s with
      | none => .ok (skipSpace s).tail
      | some rest => walkItems n depth false (← walkValue n depth rest)

def walkFields : Nat → Nat → Bool → List Char → Walk
  | 0, _, _, s => .ok s
  | n + 1, depth, first, s => do
      match ← nextName first s with
      | none => .ok (skipSpace s).tail
      | some rest =>
          let rest ← walkColon (← walkString n rest)
          walkFields n depth false (← walkValue n depth rest)

end

/-- The flaw of a text that holds a value of another type than was expected. -/
def otherType (expected : String) (s : List Char) : Walk := do
  let kind (found : String) : FlawKind := .otherType found expected
  match s with
  | 'n' :: rest => throw ⟨kind "null", ← walkWord ['u', 'l', 'l'] rest, 0⟩
  | 't' :: rest => throw ⟨kind "boolean \x60true\x60", ← walkWord ['r', 'u', 'e'] rest, 0⟩
  | 'f' :: rest => throw ⟨kind "boolean \x60false\x60", ← walkWord ['a', 'l', 's', 'e'] rest, 0⟩
  | '[' :: _ => throw ⟨kind "sequence", s, 0⟩
  | '\x7b' :: _ => throw ⟨kind "map", s, 0⟩
  | '"' :: rest =>
      let unread ← walkString s.length rest
      throw ⟨kind ("string " ++ Text.quoted (String.ofList
        (((readString rest).bind fun t => t.1).getD []))), unread, 0⟩
  | c :: _ =>
      if c = '-' ∨ c.isDigit then
        let unread ← walkNumber s
        let found := match (readNumeral s).bind fun t => t.1.value? with
          | some (.int n) => s!"integer \x60{n}\x60"
          | some (.real x) =>
              "floating point \x60" ++ String.ofList (Json.num (.real x)).chars ++ "\x60"
          | none => ""
        throw ⟨kind found, unread, 0⟩
      else nextFlaw .valueMissing s
  | [] => endFlaw .unfinishedValue

/-- Walks over a string where one is expected, and gives what it says. -/
def walkText (expected : String) (s : List Char) : Except Flaw (List Char × List Char) :=
  match skipSpace s with
  | '"' :: rest => do
      let unread ← walkString s.length rest
      return (((readString rest).bind fun t => t.1).getD [], unread)
  | rest => do return ([], ← otherType expected rest)

/-- Walks over null, or over what else may stand in its place. -/
def walkOptional (walk : List Char → Walk) (s : List Char) : Walk :=
  match skipSpace s with
  | 'n' :: rest => walkWord ['u', 'l', 'l'] rest
  | rest => walk rest

def walkEnd (s : List Char) : Walk :=
  match skipSpace s with
  | [] => .ok []
  | rest => nextFlaw .textAfterEnd rest

end SmsGateway.Json
