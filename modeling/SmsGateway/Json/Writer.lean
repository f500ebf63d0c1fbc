import SmsGateway.Json.Basic
import SmsGateway.Number.Shortest
import SmsGateway.Text.Hex

namespace SmsGateway.Json

open SmsGateway.Text SmsGateway.Number

def escape (c : Char) : List Char :=
  if c = '"' then ['\\', '"']
  else if c = '\\' then ['\\', '\\']
  else if c = '\x08' then ['\\', 'b']
  else if c = '\x0c' then ['\\', 'f']
  else if c = '\n' then ['\\', 'n']
  else if c = '\r' then ['\\', 'r']
  else if c = '\t' then ['\\', 't']
  else if c.toNat < 0x20 then '\\' :: 'u' :: '0' :: '0' :: hexByte (UInt8.ofNat c.toNat)
  else [c]

def quoted (s : String) : List Char :=
  '"' :: (s.toList.flatMap escape ++ ['"'])

def separated : List (List Char) → List Char
  | [] => []
  | [x] => x
  | x :: y :: rest => x ++ ',' :: separated (y :: rest)

def member (name : String) (value : List Char) : List Char :=
  quoted name ++ ':' :: value

def bracketed (items : List (List Char)) : List Char :=
  '[' :: (separated items ++ [']'])

def braced (members : List (List Char)) : List Char :=
  '{' :: (separated members ++ ['}'])

def intChars (n : Int) : List Char :=
  if n < 0 then '-' :: Nat.toDigits 10 n.natAbs else Nat.toDigits 10 n.natAbs

def numberChars : Number → List Char
  | .int n => intChars n
  | .real x => jsonLayout.writeBinary (isNegative x) (.ofFloat x)

mutual

def chars : Json → List Char
  | .null => ['n', 'u', 'l', 'l']
  | .bool true => ['t', 'r', 'u', 'e']
  | .bool false => ['f', 'a', 'l', 's', 'e']
  | .num n => numberChars n
  | .str s => quoted s
  | .arr items => bracketed (itemChars items)
  | .obj fields => braced (fieldChars fields)

def itemChars : List Json → List (List Char)
  | [] => []
  | v :: rest => chars v :: itemChars rest

def fieldChars : List (String × Json) → List (List Char)
  | [] => []
  | (name, v) :: rest => member name (chars v) :: fieldChars rest

end

def compact (v : Json) : String :=
  String.ofList v.chars

theorem itemChars_eq_map (items : List Json) : itemChars items = items.map chars := by
  induction items with
  | nil => rfl
  | cons v rest ih => simp [itemChars, ih]

theorem fieldChars_eq_map (fields : List (String × Json)) :
    fieldChars fields = fields.map fun f => member f.1 f.2.chars := by
  induction fields with
  | nil => rfl
  | cons f rest ih => simp [fieldChars, ih]

end SmsGateway.Json
