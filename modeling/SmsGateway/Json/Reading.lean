import SmsGateway.Config.Reading
import SmsGateway.Json.Record

namespace SmsGateway.Json

def reading : Reading Document where
  text? := Document.text?
  nat? := fun bits d => d.nat? bits
  real? := Document.single?
  fields? := Document.partialRecord?

def config? (home : String) (s : List Char) : Option Config :=
  (Document.parse s.length s).bind (reading.config? home)

end SmsGateway.Json
