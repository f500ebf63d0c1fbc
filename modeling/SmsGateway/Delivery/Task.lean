import SmsGateway.Event.Signature
import SmsGateway.Event.Wire

namespace SmsGateway

open SmsGateway.Json

/-- The methods a task is delivered with. -/
inductive TaskMethod where
  | post
  | put
  deriving DecidableEq, Repr

def TaskMethod.text : TaskMethod → String
  | .post => "POST"
  | .put => "PUT"

/-- The method with a given word. -/
def TaskMethod.ofText? (s : String) : Option TaskMethod :=
  [TaskMethod.post, .put].find? fun m => m.text == s

/-- The header that carries the shared key. -/
def apiKeyHeader : String := "x-api-key"

/-- The header that carries the signature of the body. -/
def signatureHeader : String := "x-event-signature"

/-- A unit of work for the push queue. -/
structure DeliveryTask where
  method : TaskMethod
  url : String
  body : List UInt8
  headers : NameTable String
  deriving DecidableEq

namespace DeliveryTask

def forEvent (e : Envelope) (url key : String) : DeliveryTask where
  method := .post
  url := url
  body := e.wireBytes
  headers := NameTable.ofEntries
    [("content-type", jsonContentType), (apiKeyHeader, key),
      (signatureHeader, Signature.sign key e.wireBytes)]

def withMethod (t : DeliveryTask) (method : TaskMethod) : DeliveryTask :=
  { t with method := method }

def event (t : DeliveryTask) : Except Failure Envelope :=
  Envelope.ofBytes t.body

def jsonChars (t : DeliveryTask) : List Char :=
  braced [member "method" (quoted t.method.text), member "url" (quoted t.url),
    member "body" (bracketed (t.body.map fun b => natChars b.toNat)),
    member "headers" (braced (t.headers.map fun h => member h.1 (quoted h.2)))]

/-- The table that a JSON object of strings holds. -/
def headersOf? : Document → Option (NameTable String)
  | .obj fields => do
      let named ← Envelope.namedFields fields
      let entries ← named.mapM fun f => f.2.text?.map (f.1, ·)
      return NameTable.ofEntries entries
  | _ => none

def octet? (d : Document) : Option UInt8 :=
  (d.nat? 8).map UInt8.ofNat

/-- The task that a JSON text holds. -/
def ofDocument? (d : Document) : Option DeliveryTask := do
  let r ← d.record? ["method", "url", "body", "headers"]
  let method ← r.required "method" (Document.named? TaskMethod.ofText?)
  let url ← r.required "url" Document.text?
  let body ← r.required "body" (Document.items? octet?)
  let headers ← r.required "headers" headersOf?
  return ⟨method, url, body, headers⟩

/-- Reads a task from a text. -/
def ofChars? (s : List Char) : Option DeliveryTask :=
  (Document.parse s.length s).bind ofDocument?

end DeliveryTask

end SmsGateway
