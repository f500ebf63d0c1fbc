import SmsGateway.Text.Hex

namespace SmsGateway

/-- An identifier of sixteen octets. -/
structure Uuid where
  octets : List UInt8
  size_eq : octets.length = 16
  deriving DecidableEq

namespace Uuid

open SmsGateway.Text

/-- The identifier with some octets, if there are sixteen. -/
def ofOctets? (octets : List UInt8) : Option Uuid :=
  if h : octets.length = 16 then some ⟨octets, h⟩ else none

/-- Five groups with hyphens between them. -/
def chars (u : Uuid) : List Char :=
  let digits := hexBytes u.octets
  digits.take 8 ++ '-' :: (digits.drop 8).take 4 ++ '-' :: (digits.drop 12).take 4 ++
    '-' :: (digits.drop 16).take 4 ++ '-' :: digits.drop 20

/-- Five groups with hyphens between them. -/
def text (u : Uuid) : String :=
  String.ofList u.chars

/-- The identifier whose octets these digits are. -/
def ofDigits? (digits : List Char) : Option Uuid :=
  (unhex? digits).bind ofOctets?

/-- Reads the form with hyphens. -/
def ofHyphenated? (s : List Char) : Option Uuid :=
  let hyphens := [8, 13, 18, 23]
  if s.length = 36 ∧ hyphens.all (fun i => s[i]? == some '-') then
    ofDigits? (s.take 8 ++ (s.drop 9).take 4 ++ (s.drop 14).take 4 ++ (s.drop 19).take 4 ++
      s.drop 24)
  else none

/-- Reads an identifier in any of its forms. -/
def ofChars? (s : List Char) : Option Uuid :=
  match s.length with
  | 32 => ofDigits? s
  | 36 => ofHyphenated? s
  | 38 =>
      if s.head? = some '{' ∧ s.getLast? = some '}' then ofHyphenated? (s.tail.take 36) else none
  | 45 => if s.take 9 = "urn:uuid:".toList then ofHyphenated? (s.drop 9) else none
  | _ => none

/-- Reads an identifier in any of its forms. -/
def ofText? (s : String) : Option Uuid :=
  ofChars? s.toList

end Uuid

end SmsGateway
