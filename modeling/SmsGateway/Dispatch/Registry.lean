import SmsGateway.NameTable
import SmsGateway.Text.Quoted

namespace SmsGateway

abbrev Registry (α : Type) := NameTable (List α)

namespace Registry

variable {α : Type}

def empty : Registry α := []

def listeners (r : Registry α) (type : String) : List α :=
  (NameTable.find? r type).getD []

def subscribe (r : Registry α) (type : String) (listener : α) : Registry α :=
  NameTable.insert type (r.listeners type ++ [listener]) r

def types (r : Registry α) : List String :=
  r.map (·.1)

/-- The number of listeners of an event type. -/
def count (r : Registry α) (type : String) : Nat :=
  (r.listeners type).length

/-- The text of a registry in diagnostics, given the listeners' names. -/
def diagnostic (name : α → String) (r : Registry α) : String :=
  let entry (e : String × List α) : String :=
    Text.quoted e.1 ++ ": [" ++ ", ".intercalate (e.2.map fun a => Text.quoted (name a)) ++ "]"
  "ListenerRegistry \x7b listeners: \x7b" ++ ", ".intercalate (r.map entry) ++ "\x7d \x7d"

end Registry

end SmsGateway
