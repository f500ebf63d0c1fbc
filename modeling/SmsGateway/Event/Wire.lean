import SmsGateway.Event.Flaw
import SmsGateway.Message.Codec
import SmsGateway.Text.Utf8

/-!
The wire form of an envelope: a JSON object of the core attributes that are set, in a fixed order,
and then the extensions in the order of their names. Reading takes the attributes in any order;
what is no core attribute is an extension, and of a repeated extension the last one counts.
-/

namespace SmsGateway

open SmsGateway.Json

namespace Envelope

def optionalMember (name : String) (write : α → List Char) (value : Option α) :
    List (List Char) :=
  value.toList.map fun v => member name (write v)

def coreMembers (e : Envelope) : List (List Char) :=
  [member "specversion" (quoted e.specVersion), member "id" (quoted e.id),
    member "source" (quoted e.source), member "type" (quoted e.type)] ++
    optionalMember "time" instantChars e.time ++
    optionalMember "datacontenttype" quoted e.dataContentType ++
    optionalMember "dataschema" quoted e.dataSchema ++
    optionalMember "subject" quoted e.subject ++
    optionalMember "data" Json.chars e.data ++
    optionalMember "data_base64" quoted e.dataBase64

def wireChars (e : Envelope) : List Char :=
  braced (e.coreMembers ++ fieldChars e.extensions)

def wire (e : Envelope) : String :=
  String.ofList e.wireChars

def wireBytes (e : Envelope) : List UInt8 :=
  Text.bytes e.wire

/-- The names of an object's fields, if each is a text. -/
def namedFields : List (Option String × Document) → Option (List (String × Document))
  | [] => some []
  | (name, d) :: rest => do
      let name ← name
      let fields ← namedFields rest
      return (name, d) :: fields

def fieldValues (fields : List (String × Document)) : Option (List (String × Json)) :=
  fields.mapM fun f => f.2.value?.map (f.1, ·)

/-- The envelope that a JSON object holds. -/
def ofDocument? : Document → Option Envelope
  | .obj fields => do
      let r ← declaredFields coreNames fields
      let named ← namedFields fields
      let specVersion ← r.required "specversion" Document.text?
      let id ← r.required "id" Document.text?
      let source ← r.required "source" Document.text?
      let type ← r.required "type" Document.text?
      let time ← r.optional "time" Document.instant?
      let dataContentType ← r.optional "datacontenttype" Document.text?
      let dataSchema ← r.optional "dataschema" Document.text?
      let subject ← r.optional "subject" Document.text?
      let data ← r.optional "data" Document.value?
      let dataBase64 ← r.optional "data_base64" Document.text?
      let extensions ← fieldValues (named.filter fun f => f.1 ∉ coreNames)
      return ⟨specVersion, id, source, type, time, dataContentType, dataSchema, subject, data,
        dataBase64, NameTable.ofEntries extensions⟩
  | _ => none

/-- The envelope that a text holds. -/
def ofChars? (s : List Char) : Option Envelope :=
  (Document.parse maxDepth s).bind ofDocument?

/-- Reads the wire form. -/
def ofWire (s : String) : Except Failure Envelope :=
  match ofChars? s.toList with
  | some e => .ok e
  | none => .error (.serialization (flawText s.toList))

/-- Reads the wire form from bytes. -/
def ofBytes (bs : List UInt8) : Except Failure Envelope :=
  match Text.ofBytes? bs with
  | some s => ofWire s
  | none => .error (.serialization "invalid unicode code point")

end Envelope

end SmsGateway
