import SmsGateway.Text.Percent
import SmsGateway.Url.Domain

namespace SmsGateway.Url

open SmsGateway.Text

/-- Why a text is no URL. -/
inductive UrlError where
  | withoutBase
  | emptyHost
  | invalidPort
  | invalidFourOctets
  | invalidEightGroups
  | invalidDomain
  | forbiddenCharacter
  deriving DecidableEq, Repr

def UrlError.text : UrlError → String
  | .withoutBase => "relative URL without a base"
  | .emptyHost => "empty host"
  | .invalidPort => "invalid port number"
  | .invalidFourOctets => "invalid IPv4 address"
  | .invalidEightGroups => "invalid IPv6 address"
  | .invalidDomain => "invalid international domain name"
  | .forbiddenCharacter => "invalid domain character"

/-- The value of digits in a base, if all are digits of it. -/
def valueIn? (base : Nat) (s : List Char) : Option Nat :=
  s.foldlM (fun n c => do
    let d ← hexValue? c
    if d < base then some (base * n + d) else none) 0

/-- A part of an address of four octets, which may be decimal, octal or hexadecimal. -/
def octetPart? : List Char → Option Nat
  | [] => none
  | '0' :: 'x' :: rest | '0' :: 'X' :: rest => valueIn? 16 rest
  | ['0'] => some 0
  | '0' :: rest => valueIn? 8 rest
  | s => valueIn? 10 s

/-- The parts of a name, without an empty one at its end. -/
def octetParts (name : List Char) : List (List Char) :=
  let parts := name.splitOn '.'
  if parts.getLast? = some [] then parts.dropLast else parts

def endsInNumber (name : List Char) : Bool :=
  match (octetParts name).getLast? with
  | none | some [] => false
  | some last => last.all Char.isDigit || (octetPart? last).isSome

/-- Whether a name is an address of four octets. The last part may stand for several octets. -/
def isFourOctets (name : List Char) : Bool :=
  let parts := octetParts name
  match parts.mapM octetPart? with
  | none => false
  | some numbers =>
      match numbers.getLast? with
      | none => false
      | some last =>
          parts.length ≤ 4 && numbers.dropLast.all (· ≤ 255) &&
            decide (last < Nat.pow 256 (5 - numbers.length))

/-- Whether a text is four octets in decimal, as the end of eight groups. -/
def isTrailingOctets (s : List Char) : Bool :=
  let parts := s.splitOn '.'
  parts.length == 4 && parts.all fun p =>
    p != [] && p.all Char.isDigit && (p == ['0'] || p.head? != some '0') &&
      decide ((valueIn? 10 p).getD 256 ≤ 255)

/-- Whether a text goes on as eight groups, of which there have been some already. A gap between
two colons may stand once for groups that are left out. -/
def isGroups (count : Nat) (gap : Bool) (s : List Char) : Bool :=
  match s with
  | [] => gap || count == 8
  | ':' :: rest => count < 8 && !gap && isGroups (count + 1) true rest
  | c :: rest =>
      let digits := (c :: rest).takeWhile fun x => (hexValue? x).isSome
      let group := digits.take 4
      if 8 ≤ count then false
      else
        match h : (c :: rest).drop group.length with
        | [] => gap || count + 1 == 8
        | ':' :: more =>
            if more = [] ∨ group.length = 0 then false
            else isGroups (count + 1) gap more
        | '.' :: _ =>
            group.length != 0 && count ≤ 6 && (gap || count == 6) && isTrailingOctets s
        | _ => false
termination_by s.length
decreasing_by
  · simp
  · have hl := congrArg List.length h
    simp only [List.length_drop, List.length_cons] at hl ⊢
    omega

def isEightGroups : List Char → Bool
  | ':' :: ':' :: rest => isGroups 1 true rest
  | ':' :: _ => false
  | s => 2 ≤ s.length && isGroups 0 false s

def checkBracketed (inside : List Char) : Except UrlError Unit :=
  if inside.getLast? = some ']' ∧ isEightGroups inside.dropLast then .ok ()
  else .error .invalidEightGroups

/-- A host that is a name or an address. The answer is the name. -/
def host (s : List Char) : Except UrlError (List Char) :=
  match s with
  | '[' :: rest => (checkBracketed rest).map fun _ => s
  | _ =>
      match ofBytes? (percentDecode (bytes (String.ofList s))) with
      | none => .error .invalidDomain
      | some decoded =>
          match Domain.ofText? decoded.toList with
          | none => .error .invalidDomain
          | some [] => .error .emptyHost
          | some name =>
              if endsInNumber name && !isFourOctets name then .error .invalidFourOctets
              else .ok name

/-- Characters that a host of a scheme without rules of its own may not hold. -/
def isOpaqueForbidden (c : Char) : Bool :=
  c == '\x00' || "\t\n\r #/:<>?@[\\]^|".toList.contains c

def checkOpaque (s : List Char) : Except UrlError Unit :=
  match s with
  | '[' :: rest => checkBracketed rest
  | _ => if s.any isOpaqueForbidden then .error .forbiddenCharacter else .ok ()

end SmsGateway.Url
