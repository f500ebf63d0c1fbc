namespace SmsGateway

/-- Entries ascending by name, each name once. -/
abbrev NameTable (α : Type) := List (String × α)

namespace NameTable

variable {α : Type}

/-- Gives `name` a value: in its place in the order, instead of the one it had. -/
def insert (name : String) (value : α) : NameTable α → NameTable α
  | [] => [(name, value)]
  | (n, v) :: rest =>
      if name < n then (name, value) :: (n, v) :: rest
      else if name = n then (name, value) :: rest
      else (n, v) :: insert name value rest

def find? (t : NameTable α) (name : String) : Option α :=
  t.lookup name

/-- The table of some entries; of a repeated name the last entry counts. -/
def ofEntries (entries : List (String × α)) : NameTable α :=
  entries.foldl (fun t e => insert e.1 e.2 t) []

def Ascending (t : NameTable α) : Prop :=
  t.Pairwise fun a b => a.1 < b.1

end NameTable

end SmsGateway
