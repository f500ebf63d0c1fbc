import SmsGateway.NameTable

namespace SmsGateway

/-- How much a notice matters. -/
inductive NoticeLevel where
  | debug
  | info
  | warn
  | error
  deriving DecidableEq, Repr

def NoticeLevel.text : NoticeLevel → String
  | .debug => "DEBUG"
  | .info => "INFO"
  | .warn => "WARN"
  | .error => "ERROR"

/-- An entry of the journal. -/
structure Notice where
  level : NoticeLevel
  message : String
  fields : NameTable String
  deriving DecidableEq, Repr

namespace Notice

/-- A notice with named texts. -/
def of (level : NoticeLevel) (message : String) (fields : List (String × String)) : Notice :=
  ⟨level, message, NameTable.ofEntries fields⟩

def ofError (level : NoticeLevel) (message error : String) : Notice :=
  of level message [("error", error)]

def line (n : Notice) : String :=
  n.fields.foldl (fun s f => s ++ " " ++ f.1 ++ "=" ++ f.2) (n.level.text ++ " " ++ n.message)

end Notice

end SmsGateway
