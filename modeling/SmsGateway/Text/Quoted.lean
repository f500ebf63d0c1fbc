import SmsGateway.Text.Combining
import SmsGateway.Text.Hex
import SmsGateway.Text.Invisible

namespace SmsGateway.Text

def numbered (c : Char) : List Char :=
  "\\u\x7b".toList ++ Nat.toDigits 16 c.toNat ++ ['\x7d']

def quotedChar (c : Char) : List Char :=
  match c with
  | '\x00' => ['\\', '0']
  | '\t' => ['\\', 't']
  | '\n' => ['\\', 'n']
  | '\r' => ['\\', 'r']
  | '"' => ['\\', '"']
  | '\\' => ['\\', '\\']
  | c =>
      if c.toNat < 0x20 || c.toNat = 0x7F then numbered c
      else if 0x80 ≤ c.toNat && (isInvisible c || isCombining c) then numbered c
      else [c]

def quoted (s : String) : String :=
  String.ofList ('"' :: s.toList.flatMap quotedChar ++ ['"'])

end SmsGateway.Text
