import SmsGateway.EventLog.Basic

/-!
Where event logs are kept. A directory holds further directories, files and event logs, each under a
path of names. Opening a log makes the directories on the way and the log itself, unless something
else is in the way. A log that is kept in memory belongs to the one who opened it.

Paths lead down from the root, which is the working directory as well. They have no `..`, follow no
links and are no URIs.
-/

namespace SmsGateway

/-- What is found under a path. -/
inductive Node where
  | directory
  | file (content : List UInt8)
  | log (log : EventLog)
  deriving DecidableEq

/-- What is found under each path of a directory. -/
structure Directory where
  nodes : List (List String × Node)

/-- An event log that has been opened. -/
inductive LogHandle where
  | inMemory
  | stored (path : List String)
  deriving DecidableEq

namespace Directory

def names (path : String) : List String :=
  ((path.toList.splitOn '/').map String.ofList).filter fun n => n ≠ "" ∧ n ≠ "."

def find? (d : Directory) (path : List String) : Option Node :=
  if path = [] then some .directory else d.nodes.lookup path

/-- Puts something under a path. -/
def put (d : Directory) (path : List String) (n : Node) : Directory :=
  ⟨d.nodes.filter (fun x => x.1 ≠ path) ++ [(path, n)]⟩

def makeDirectories (below : List String) : List String → Directory → Option Directory
  | [], d => some d
  | name :: rest, d =>
      let path := below ++ [name]
      match d.find? path with
      | none => makeDirectories path rest (d.put path .directory)
      | some .directory => makeDirectories path rest d
      | some _ => none

def memoryName : String := ":memory:"

/-- Whether a log is kept in memory: its path is empty, or it begins with that name and has no other.
With a `/` or a `.` before it, the name is that of a file. -/
def isInMemory (path : String) : Bool :=
  path = "" ∨ names path = [memoryName] ∧ path.startsWith memoryName

/-- The database's result code for a file that is no database. -/
def notADatabase : Nat := 26

def openLog (d : Directory) (path : String) : Except Failure LogHandle × Directory :=
  let at' := names path
  if isInMemory path then (.ok .inMemory, d)
  else
    match makeDirectories [] at'.dropLast d with
    | none => (.error (.io "not a directory"), d)
    | some d =>
        match d.find? at' with
        | none | some (.file []) => (.ok (.stored at'), d.put at' (.log .empty))
        | some (.log _) => (.ok (.stored at'), d)
        | some (.file _) => (.error (.database notADatabase), d)
        | some .directory => (.error (.database Failure.cannotOpen), d)

def log (d : Directory) (path : List String) : EventLog :=
  match d.find? path with
  | some (.log l) => l
  | _ => .empty

def content? (d : Directory) (path : String) : Option (List UInt8) :=
  match d.find? (names path) with
  | some (.file content) => some content
  | _ => none

def entries (d : Directory) : List String :=
  (d.nodes.filterMap fun x => if x.1.length = 1 then x.1.head? else none).mergeSort (· ≤ ·)

end Directory

/-- The text of an opened log in diagnostics. -/
def LogHandle.diagnostic : String :=
  "SqliteEventRepository \x7b .. \x7d"

end SmsGateway
