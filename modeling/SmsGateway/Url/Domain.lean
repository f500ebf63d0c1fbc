import SmsGateway.Text.Combining
import SmsGateway.Text.Invisible
import SmsGateway.Url.Punycode

namespace SmsGateway.Url.Domain

open SmsGateway.Text

def isForbidden (c : Char) : Bool :=
  c.toNat ≤ 0x20 || c.toNat == 0x7F || "%#/:<>?@[\\]^|".toList.contains c

/-- Characters beyond ASCII that stand for a text with a forbidden character in it. -/
def forbiddenRanges : Ranges :=
  [(0xa0, 0xa0), (0xa8, 0xa8), (0xaf, 0xaf), (0xb4, 0xb4), (0xb8, 0xb8), (0x2d8, 0x2dd),
    (0x37a, 0x37a), (0x384, 0x385), (0x1fbd, 0x1fbd), (0x1fbf, 0x1fc1), (0x1fcd, 0x1fcf),
    (0x1fdd, 0x1fdf), (0x1fed, 0x1fee), (0x1ffd, 0x1ffe), (0x2000, 0x200a), (0x2017, 0x2017),
    (0x2024, 0x2026), (0x202f, 0x202f), (0x203e, 0x203e), (0x2047, 0x2049), (0x205f, 0x205f),
    (0x2100, 0x2101), (0x2105, 0x2106), (0x2488, 0x249b), (0x2a74, 0x2a74), (0x3000, 0x3000),
    (0x309b, 0x309c), (0xfc5e, 0xfc63), (0xfdfa, 0xfdfb), (0xfe13, 0xfe13), (0xfe16, 0xfe16),
    (0xfe47, 0xfe4c), (0xfe55, 0xfe56), (0xfe5f, 0xfe5f), (0xfe64, 0xfe65), (0xfe68, 0xfe68),
    (0xfe6a, 0xfe6b), (0xfe70, 0xfe70), (0xfe72, 0xfe72), (0xfe74, 0xfe74), (0xfe76, 0xfe76),
    (0xfe78, 0xfe78), (0xfe7a, 0xfe7a), (0xfe7c, 0xfe7c), (0xfe7e, 0xfe7e), (0xff03, 0xff03),
    (0xff05, 0xff05), (0xff0f, 0xff0f), (0xff1a, 0xff1a), (0xff1c, 0xff1c), (0xff1e, 0xff20),
    (0xff3b, 0xff3e), (0xff5c, 0xff5c), (0xffe3, 0xffe3)]

def ignoredRanges : Ranges :=
  [(0xad, 0xad), (0x34f, 0x34f), (0x180b, 0x180f), (0x200b, 0x200b), (0x2060, 0x2060),
    (0x2064, 0x2064), (0xfe00, 0xfe0f), (0xfeff, 0xfeff), (0x1bca0, 0x1bca3), (0xe0100, 0xe01ef)]

def rightToLeftRanges : Ranges :=
  [(0x5be, 0x5f4), (0x608, 0x608), (0x60b, 0x60b), (0x60d, 0x60d), (0x61b, 0x8c9),
    (0xfb1d, 0xfdff), (0xfe70, 0xfefc), (0x10800, 0x10fff), (0x1e800, 0x1efff)]

/-- A character as it counts in a name: nothing, or one character. -/
def fold (c : Char) : List Char :=
  if c.toNat < 0x80 then [c.toLower]
  else if c = '\u3002' ∨ c = '\uFF61' then ['.']
  else if ignoredRanges.holds c then []
  else if 0xFF01 ≤ c.toNat ∧ c.toNat ≤ 0xFF5E then [(Char.ofNat (c.toNat - 0xFEE0)).toLower]
  else [c]

def isAllowed (c : Char) : Bool :=
  if c.toNat < 0x80 then !isForbidden c
  else !(forbiddenRanges.holds c || isInvisible c)

def isRightToLeft (c : Char) : Bool :=
  0x80 ≤ c.toNat && rightToLeftRanges.holds c && !isCombining c

def isLetter (c : Char) : Bool :=
  c.isAlpha || (0x80 ≤ c.toNat && !isCombining c)

/-- Whether the parts of a label go in one direction, in a name that has both. -/
def isOneWay (label : List Char) : Bool :=
  match label with
  | [] => true
  | first :: _ =>
      let shown := label.reverse.dropWhile isCombining
      isLetter first && shown.head?.all (fun c => isLetter c || c.isDigit) &&
        (if isRightToLeft first then !label.any Char.isAlpha else !label.any isRightToLeft)

/-- The label that a label stands for, if it is a valid one. -/
def label? (label : List Char) : Option (List Char) :=
  match label with
  | 'x' :: 'n' :: '-' :: '-' :: rest => do
      let decoded ← Punycode.decode? rest
      if decoded.all (·.toNat < 0x80) || decoded.any Char.isUpper then none
      else if decoded.flatMap fold = decoded then some decoded
      else none
  | _ => some label

def isValidLabel (label : List Char) : Bool :=
  label.all isAllowed && !label.head?.any isCombining

def labels (name : List Char) : List (List Char) :=
  name.splitOn '.'

/-- The name that a text stands for, if it is a valid one. -/
def ofText? (s : List Char) : Option (List Char) := do
  let folded := s.flatMap fold
  let decoded ← (labels folded).mapM label?
  if !decoded.all isValidLabel then none
  else if decoded.any (·.any isRightToLeft) && !decoded.all isOneWay then none
  else some folded

end SmsGateway.Url.Domain
