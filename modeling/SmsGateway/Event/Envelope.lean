import SmsGateway.Failure
import SmsGateway.Json.Basic
import SmsGateway.Text.Blank
import SmsGateway.Time.Instant

namespace SmsGateway

/-- A notification of an occurrence. -/
structure Envelope where
  specVersion : String
  id : String
  source : String
  type : String
  time : Option Time.Instant
  dataContentType : Option String
  dataSchema : Option String
  subject : Option String
  data : Option Json
  /-- Binary data in base 64; not together with `data`. -/
  dataBase64 : Option String
  /-- Further attributes, written beside the core ones. -/
  extensions : NameTable Json
  deriving BEq

/-- The version of the envelope format that is produced and accepted. -/
def specVersion : String := "1.0"

def jsonContentType : String := "application/json"

/-- The greatest length of an extension's name. -/
def maxExtensionName : Nat := 20

/-- The names of the core attributes, in the order in which they are written. -/
def coreNames : List String :=
  ["specversion", "id", "source", "type", "time", "datacontenttype", "dataschema", "subject",
    "data", "data_base64"]

namespace Envelope

def create (id type source : String) (time : Option Time.Instant) : Envelope where
  specVersion := SmsGateway.specVersion
  id := id
  source := source
  type := type
  time := time
  dataContentType := none
  dataSchema := none
  subject := none
  data := none
  dataBase64 := none
  extensions := []

/-- Sets the payload, which is then JSON. -/
def withData (e : Envelope) (data : Json) : Envelope :=
  { e with data := some data, dataContentType := some jsonContentType }

/-- Sets an extension attribute. -/
def withExtension (e : Envelope) (name : String) (value : Json) : Envelope :=
  { e with extensions := NameTable.insert name value e.extensions }

/-- The value of an extension attribute that is a string. -/
def extensionText? (e : Envelope) (name : String) : Option String :=
  (NameTable.find? e.extensions name).bind Json.text?

/-- Whether a name is made of lower-case letters and digits, from one to twenty of them. -/
def isExtensionName (name : String) : Bool :=
  name != "" && name.toList.all (fun c => c.isLower || c.isDigit) &&
    decide (name.utf8ByteSize ≤ maxExtensionName)

/-- The rules for the name of an extension attribute. -/
def validateName (name : String) : Except Failure Unit :=
  if !isExtensionName name then
    .error (.invalid
      (s!"extension attribute '{name}' must be 1-{maxExtensionName} " ++
        "lowercase ASCII letters or digits") .invalidExtension)
  else if name ∈ coreNames then
    .error (.invalid s!"extension attribute '{name}' collides with a core attribute"
      .invalidExtension)
  else .ok ()

def isSetBlank (value : Option String) : Bool :=
  value.any Text.isBlankText

/-- The rules for an envelope, in the order in which they are checked. -/
def validate (e : Envelope) : Except Failure Unit :=
  if e.specVersion != SmsGateway.specVersion then
    .error (.invalid
      s!"unsupported specversion '{e.specVersion}', expected '{SmsGateway.specVersion}'"
      .invalidEnvelope)
  else if Text.isBlankText e.id then .error (.missingField "id")
  else if Text.isBlankText e.source then .error (.missingField "source")
  else if e.source.toList.any Text.isBlank then
    .error (.invalid s!"source '{e.source}' is not a valid URI-reference" .invalidEnvelope)
  else if Text.isBlankText e.type then .error (.missingField "type")
  else if isSetBlank e.dataContentType then
    .error (.invalid "datacontenttype must not be empty when set" .invalidEnvelope)
  else if isSetBlank e.dataSchema then
    .error (.invalid "dataschema must not be empty when set" .invalidEnvelope)
  else if e.data.isSome && e.dataBase64.isSome then
    .error (.invalid "data and data_base64 are mutually exclusive" .invalidPayload)
  else e.extensions.forM fun x => validateName x.1

def payload (e : Envelope) : Except Failure Json :=
  match e.data with
  | some data => .ok data
  | none => .error (.invalid s!"event [{e.type}] with id [{e.id}] has no data" .invalidPayload)

end Envelope

end SmsGateway
