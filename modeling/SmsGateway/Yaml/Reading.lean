import SmsGateway.Config.Reading
import SmsGateway.Number.Binary
import SmsGateway.Yaml.Node

namespace SmsGateway.Yaml

open SmsGateway.Number

def resolve (d : Document) : Yaml → Yaml
  | .alias number => (d.named.lookup number).getD missing
  | node => node

def text? : Yaml → Option String
  | .scalar text _ _ => some text
  | _ => none

/-- The characters of a scalar that may be a number: a plain one, or a block with the tag of the
kind of number. -/
def numeral? (kind : String) : Yaml → Option (List Char)
  | .scalar text .plain _ => some text.toList
  | .scalar text .literal (some tag) =>
      if tag = "tag:yaml.org,2002:" ++ kind then some text.toList else none
  | _ => none

def digits? (base : Nat) (s : List Char) : Option Nat :=
  if s = [] then none
  else
    s.foldlM (fun n c => do
      let d ← Text.hexValue? c
      if d < base then some (base * n + d) else none) 0

def unsigned : List Char → List Char
  | '+' :: rest => rest
  | s => s

/-- Whether digits have a needless zero in front. -/
def hasNeedlessZero (s : List Char) : Bool :=
  match s with
  | '0' :: rest => rest != [] && rest.all Char.isDigit
  | _ => false

/-- A natural number: in decimal without needless zeros, or in one of three bases that a mark
tells. -/
def natural? (s : List Char) : Option Nat :=
  match unsigned s with
  | '0' :: 'x' :: rest => digits? 16 rest
  | '0' :: 'o' :: rest => digits? 8 rest
  | '0' :: 'b' :: rest => digits? 2 rest
  | s => if hasNeedlessZero s then none else digits? 10 (if s.head? = some '+' then [] else s)

/-- A decimal number with an optional sign, fraction and exponent, if it is within the range of
64-bit numbers. -/
def decimal? (s : List Char) : Option Float := do
  let (negative, s) := match s with
    | '-' :: rest => (true, rest)
    | '+' :: rest => (false, rest)
    | s => (false, s)
  let whole := s.takeWhile Char.isDigit
  let s := s.drop whole.length
  let (fraction, s) := match s with
    | '.' :: rest => (rest.takeWhile Char.isDigit, rest.dropWhile Char.isDigit)
    | s => ([], s)
  if whole = [] ∧ fraction = [] then none
  let exponent ← match s with
    | [] => some (0 : Int)
    | e :: rest =>
        if e ≠ 'e' ∧ e ≠ 'E' then none
        else
          match rest with
          | '-' :: ds => (digits? 10 ds).map fun n => -(n : Int)
          | '+' :: ds => (digits? 10 ds).map fun n => (n : Int)
          | ds => (digits? 10 ds).map fun n => (n : Int)
  let x := ofDecimal ((digits? 10 (whole ++ fraction)).getD 0) (exponent - fraction.length)
  if x.isInf then none else return if negative then -x else x

/-- A number, which may be infinite or no number at all. -/
def real? (s : List Char) : Option Single :=
  let isWord (word : String) (s : List Char) : Bool :=
    s == word.toList || s == word.capitalize.toList || s == word.toUpper.toList
  let named (word : String) (s : List Char) : Bool :=
    match s with
    | '.' :: rest => isWord word rest
    | _ => false
  if named "inf" (unsigned s) then some ⟨0x7F800000⟩
  else if s.head? = some '-' ∧ named "inf" s.tail then some ⟨0xFF800000⟩
  else if s ∈ [".nan".toList, ".NaN".toList, ".NAN".toList] then some (.nan false)
  else
    match s with
    | '+' :: '+' :: _ | '+' :: '-' :: _ => none
    | s => (decimal? (unsigned s)).map .ofFloat

/-- The values of a mapping that have one of the given names, each at most once. -/
def known (d : Document) (names : List String) : List (Yaml × Yaml) →
    Option (List (String × Yaml))
  | [] => some []
  | (k, v) :: rest => do
      let name ← text? (resolve d k)
      let found ← known d names rest
      if name ∉ names then return found
      else if (found.lookup name).isSome then none
      else return (name, v) :: found

def reading (d : Document) : Reading Yaml where
  text? node := text? (resolve d node)
  nat? bits node := do
    let n ← (numeral? "int" (resolve d node)).bind natural?
    if n < Nat.pow 2 bits then some n else none
  real? node := (numeral? "float" (resolve d node)).bind real?
  fields? names node :=
    match resolve d node with
    | .mapping pairs => known d names pairs
    | .scalar "" .plain _ => some []
    | _ => none

def config? (home : String) (s : List Char) : Option Config :=
  (document? s).bind fun d => (reading d).config? home d.root

end SmsGateway.Yaml
