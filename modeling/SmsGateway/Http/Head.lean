import SmsGateway.Http.Exchange
import SmsGateway.Http.Status

namespace SmsGateway.Http

def lengthHeader : String := "content-length"

def trimmed (s : List Char) : List Char :=
  ((s.dropWhile Char.isWhitespace).reverse.dropWhile Char.isWhitespace).reverse

def headerOfLine? (line : String) : Option (String × List UInt8) :=
  let name := line.toList.takeWhile (· != ':')
  match line.toList.drop name.length with
  | ':' :: value =>
      if name = [] then none
      else some (String.ofList name, Text.bytes (String.ofList (trimmed value)))
  | _ => none

/-- A request without its body, from its lines. -/
def Request.ofHead? : List String → Option Request
  | [] => none
  | first :: rest =>
      match (trimmed first.toList).splitOn ' ' with
      | [method, target, _] => do
          let headers ← rest.mapM headerOfLine?
          return ⟨String.ofList method, String.ofList target, headers, []⟩
      | _ => none

/-- The length of a request's body. Without a header that tells it there is no body. -/
def Request.bodyLength (r : Request) : Nat :=
  match r.header? lengthHeader with
  | some value => (Request.headerText value).toNat?.getD 0
  | none => 0

def headLine (s : String) : String :=
  s ++ "\r\n"

def Response.text (r : Response) : String :=
  let header (name : String) (value : Option String) : String :=
    value.elim "" fun v => headLine (name ++ ": " ++ v)
  headLine ("HTTP/1.1 " ++ statusText r.status) ++ header "content-type" r.contentType ++
    header "allow" r.allow ++ header "access-control-allow-origin" r.allowOrigin ++
      header lengthHeader (toString r.body.utf8ByteSize) ++ headLine "" ++ r.body

end SmsGateway.Http
