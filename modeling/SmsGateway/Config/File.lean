import SmsGateway.Failure
import SmsGateway.Json.Reading
import SmsGateway.Text.Utf8
import SmsGateway.Toml.Reading
import SmsGateway.Yaml.Reading

namespace SmsGateway

/-- The formats of configuration files. -/
inductive ConfigFormat where
  | toml
  | json
  | yaml
  deriving DecidableEq, Repr

namespace ConfigFormat

/-- The extension of a file's name: what follows its last dot, if something stands before that. -/
def extension? (name : String) : Option String :=
  let chars := name.toList
  let tail := (chars.reverse.takeWhile (· != '.')).reverse
  if tail.length + 1 < chars.length then some (String.ofList tail) else none

def ofName? (name : String) : Option ConfigFormat :=
  match extension? name with
  | some "toml" => some .toml
  | some "json" => some .json
  | some "yaml" | some "yml" => some .yaml
  | _ => none

/-- The configuration that a text in a format holds. -/
def read? (format : ConfigFormat) (home : String) (s : List Char) : Option Config :=
  match format with
  | .toml => Toml.config? home s
  | .json => Json.config? home s
  | .yaml => Yaml.config? home s

end ConfigFormat

/-- The configuration in a file with a name and some bytes, if there is such a file. -/
def Config.ofFile (home name : String) (content : Option (List UInt8)) : Except Failure Config :=
  match content.bind Text.ofBytes? with
  | none => .error (.io "")
  | some text =>
      match ConfigFormat.ofName? name with
      | none =>
          .error (.configuration
            "Unsupported config file format. Use .toml, .json, or .yaml")
      | some format =>
          match format.read? home text.toList with
          | some c => .ok c
          | none => .error .malformedConfiguration

end SmsGateway
