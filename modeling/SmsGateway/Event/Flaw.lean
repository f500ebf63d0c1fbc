import SmsGateway.Event.Envelope
import SmsGateway.Json.Flaw
import SmsGateway.Time.Text

namespace SmsGateway

open SmsGateway.Json

/-- Whether some ending of a complete text completes another one. -/
def Time.Instant.isBeginning (s : List Char) : Bool :=
  let whole := "2000-01-01T00:00:00Z".toList
  (List.range (whole.length + 1)).any fun n => (Time.Instant.ofChars? (s ++ whole.drop n)).isSome

def Time.Instant.flawText (s : List Char) : String :=
  if isBeginning s then "premature end of input"
  else
    match do
      let (_, s) ← Time.readDate s
      let (_, s) ← Time.readTime s.tail
      Time.readOffset s with
    | none => "input contains invalid characters"
    | some (_, s) =>
        if Text.dropBlanks s = [] then "input is out of range" else "trailing input"

namespace Envelope

def walkAttribute (name : String) (s : List Char) : Walk :=
  let text (s : List Char) : Walk := (walkText "a string" s).map Prod.snd
  if name ∈ ["specversion", "id", "source", "type"] then text s
  else if name ∈ ["datacontenttype", "dataschema", "subject", "data_base64"] then
    walkOptional text s
  else if name = "time" then
    walkOptional (fun s => do
      let (t, rest) ← walkText "an RFC 3339 formatted date and time string" s
      if (Time.Instant.ofChars? t).isSome then .ok rest
      else .error ⟨.notInstant (Time.Instant.flawText t), rest, 0⟩) s
  else walkValue (2 * s.length + 8) (maxDepth - 1) s

/-- What is left after a closing brace, if it follows. -/
def leaveObject (s : List Char) : List Char :=
  match skipSpace s with
  | '\x7d' :: rest => rest
  | rest => rest

/-- Walks over the attributes that are left. The number bounds them. -/
def walkAttributes : Nat → List String → Bool → List Char → Walk
  | 0, _, _, s => .ok s
  | n + 1, known, first, s => do
      match ← nextName first s with
      | none =>
          let rest := leaveObject s
          match ["specversion", "id", "source", "type"].find? (· ∉ known) with
          | some name => .error ⟨.fieldMissing name, rest, 0⟩
          | none => .ok rest
      | some rest =>
          let (name, rest) ← walkText "" ('"' :: rest)
          let name := String.ofList name
          if name ∈ known ∧ name ∈ coreNames then
            .error ⟨.fieldRepeated name, leaveObject rest, 0⟩
          else
            walkAttributes n (name :: known) false (← walkAttribute name (← walkColon rest))

/-- Why a text that holds no envelope holds none. -/
def flawText (s : List Char) : String :=
  let walk : Walk := do
    let rest ← match skipSpace s with
      | '\x7b' :: rest => walkAttributes s.length [] true rest
      | rest => otherType "struct EventEnvelope" rest
    walkEnd rest
  match walk with
  | .error flaw => flaw.text s
  | .ok _ => ""

end Envelope

end SmsGateway
