import SmsGateway.Http.Head
import SmsGateway.Startup.Basic

namespace SmsGateway

/-- The surroundings of a running gateway: the log refuses nothing, the auditor takes down every
event, and nothing is put into a queue while requests are answered. -/
def running : Surroundings String (List Notice) where
  refuse _ journal := (none, journal)
  name listener := listener
  handle _ e _ journal := (some .handled, journal ++ [Startup.auditNotice e])
  enqueue _ _ journal := (.error .queueClosed, journal)

def processVariables : IO Environment := do
  let found ← Startup.variableNames.mapM fun name => do
    return (← IO.getEnv name).map fun value => (name, value)
  return NameTable.ofEntries (found.filterMap id)

def fileNode (path : String) : IO (List (List String × Node)) :=
  try
    return [(Directory.names path, .file (← IO.FS.readBinFile path).toList)]
  catch _ => return []

def startFiles (given : Environment) : IO Directory := do
  let own ← fileNode Startup.variablesFile
  match NameTable.find? (Startup.environment given ⟨own⟩) Startup.configVariable with
  | some path => return ⟨own ++ (← fileNode path)⟩
  | none => return ⟨own⟩

def journal (notices : List Notice) : IO Unit :=
  notices.forM fun n => IO.eprintln n.line

partial def headLines (input : IO.FS.Stream) : IO (List String) := do
  let line ← input.getLine
  let line := line.trimAsciiEnd.toString
  if line.isEmpty then return []
  return line :: (← headLines input)

partial def readBytes (input : IO.FS.Stream) (count : Nat) : IO (List UInt8) := do
  if count = 0 then return []
  let part ← input.read count.toUSize
  if part.isEmpty then return []
  return part.toList ++ (← readBytes input (count - part.size))

/-- Answers requests until the input ends. -/
partial def answerAll (s : Server String) (w : World (List Notice)) : IO Unit := do
  let input ← IO.getStdin
  let lines ← headLines input
  match Http.Request.ofHead? lines with
  | none => journal [.of .info "Server stopped cleanly" []]
  | some head =>
      let body ← readBytes input head.bodyLength
      let (response, w) := s.handle running { head with body := body } w
      let output ← IO.getStdout
      output.putStr ((response.map Http.Response.text).getD "")
      output.flush
      journal (w.notices ++ w.outside)
      answerAll s ⟨w.log, [], []⟩

end SmsGateway

open SmsGateway in
/-- Starts the gateway; the exit code is one if it does not start. -/
def main : IO UInt32 := do
  let given ← processVariables
  let home := (← IO.getEnv "HOME").getD "."
  let files ← startFiles given
  match (Startup.prepare given home (fun _ => true) files).1 with
  | .error f =>
      IO.eprintln ("Error: " ++ f.text)
      return 1
  | .ok ready =>
      journal [.of .info ("Starting smsbridge-server on " ++ ready.address) []]
      answerAll (Startup.server ready.config) ⟨.empty, [], []⟩
      return 0
