import SmsGateway.Text.Hex
import SmsGateway.Text.Utf8

namespace SmsGateway.Text

def percentDecode : List UInt8 → List UInt8
  | [] => []
  | [a] => [a]
  | [a, b] => [a, b]
  | a :: b :: c :: rest =>
      let digit (x : UInt8) : Option Nat := hexValue? (Char.ofNat x.toNat)
      if a = 0x25 then
        match digit b, digit c with
        | some h, some l => UInt8.ofNat (16 * h + l) :: percentDecode rest
        | _, _ => a :: percentDecode (b :: c :: rest)
      else a :: percentDecode (b :: c :: rest)

end SmsGateway.Text
