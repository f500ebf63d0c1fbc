import SmsGateway.Config.Reading
import SmsGateway.Toml.Document

namespace SmsGateway.Toml

def known (names : List String) (fields : Fields) : Fields :=
  fields.filter fun f => f.1 ∈ names

def reading : Reading Toml where
  text?
    | .text s => some s
    | _ => none
  nat? bits
    | .whole n => if 0 ≤ n ∧ n < Nat.pow 2 bits then some n.toNat else none
    | _ => none
  real?
    | .real x => some (.ofFloat x)
    | .nan negative => some (.nan negative)
    | .whole n => some (.ofInt n)
    | _ => none
  fields? names
    | .table _ fields | .inline fields => some (known names fields)
    | .array items => some (names.zip items)
    | .tables elements => some (names.zip (elements.reverse.map (.table .headed)))
    | .moment => some []
    | _ => none

def config? (home : String) (s : List Char) : Option Config :=
  (TomlText.parse s).bind fun fields => reading.config? home (.table .headed fields)

end SmsGateway.Toml
