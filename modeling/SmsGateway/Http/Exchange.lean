import SmsGateway.Text.Utf8

namespace SmsGateway.Http

/-- A request. The target is a path, with a query after a question mark. -/
structure Request where
  method : String
  target : String
  headers : List (String × List UInt8)
  body : List UInt8
  deriving DecidableEq

namespace Request

/-- A header by its name, which may be written in any case. Of several the first one counts. -/
def header? (r : Request) (name : String) : Option (List UInt8) :=
  (r.headers.find? fun h => h.1.toLower == name).map (·.2)

def isVisible (b : UInt8) : Bool :=
  (0x20 ≤ b && b < 0x7F) || b == 0x09

/-- The text of a header value, which is empty if some byte of it is not visible. -/
def headerText (value : List UInt8) : String :=
  if value.all isVisible then String.ofList (value.map fun b => Char.ofNat b.toNat) else ""

def path (r : Request) : List Char :=
  r.target.toList.takeWhile (· != '?')

end Request

/-- A response. -/
structure Response where
  status : Nat
  contentType : Option String
  allow : Option String
  allowOrigin : Option String
  body : String
  deriving DecidableEq, Repr

namespace Response

def bare (status : Nat) : Response :=
  ⟨status, none, none, none, ""⟩

def json (status : Nat) (body : String) : Response :=
  ⟨status, some "application/json", none, none, body⟩

def plain (status : Nat) (body : String) : Response :=
  ⟨status, some "text/plain; charset=utf-8", none, none, body⟩

end Response

end SmsGateway.Http
