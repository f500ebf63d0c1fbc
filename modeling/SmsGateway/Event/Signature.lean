import SmsGateway.Crypto.Hmac
import SmsGateway.Text.Hex
import SmsGateway.Text.Utf8

namespace SmsGateway.Signature

open SmsGateway.Text

def heading : String := "sha256="

def sign (key : String) (payload : List UInt8) : String :=
  heading ++ String.ofList (hexBytes (Crypto.hmac (bytes key) payload).bytes)

/-- The differences of two octet strings of the same length, gathered into one octet. -/
def differences (a b : List UInt8) : UInt8 :=
  (a.zip b).foldl (fun acc xy => acc ||| (xy.1 ^^^ xy.2)) 0

/-- Compares two octet strings without stopping at a difference. -/
def equalBytes (a b : List UInt8) : Bool :=
  a.length == b.length && differences a b == 0

def verify (payload : List UInt8) (key signature : String) : Bool :=
  equalBytes (bytes (sign key payload)) (bytes signature)

end SmsGateway.Signature
