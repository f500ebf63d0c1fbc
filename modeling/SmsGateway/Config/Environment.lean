import SmsGateway.Config.Basic
import SmsGateway.Failure
import SmsGateway.NameTable

namespace SmsGateway

/-- Variables and their values. -/
abbrev Environment := NameTable String

namespace Environment

/-- The number that a text holds, if it has at most some bits. -/
def number? (bits : Nat) (s : String) : Option Nat :=
  let digits := match s.toList with
    | '+' :: rest => rest
    | all => all
  if digits = [] ∨ !digits.all Char.isDigit then none
  else
    let n := digits.foldl (fun n c => 10 * n + (c.toNat - 48)) 0
    if n < Nat.pow 2 bits then some n else none

/-- A variable that holds a text. -/
def textOr (env : Environment) (name standard : String) : String :=
  (NameTable.find? env name).getD standard

/-- A variable that holds a number of at most some bits. -/
def numberOr (env : Environment) (name : String) (bits standard : Nat) : Except Failure Nat :=
  match NameTable.find? env name with
  | none => .ok standard
  | some s =>
      match number? bits s with
      | some n => .ok n
      | none => .error (.configuration s!"{name} has invalid value '{s}'")

def config (env : Environment) (home : String) : Except Failure Config := do
  let base := Config.standard home
  let host := env.textOr "SMSBRIDGE_HOST" base.server.host
  let port ← env.numberOr "SMSBRIDGE_PORT" 16 base.server.port.toNat
  let path := env.textOr "SMSBRIDGE_EVENT_DB_PATH" base.log.path
  let endpoint := env.textOr "SMSBRIDGE_CONSUMER_ENDPOINT" base.queue.endpoint
  let key := env.textOr "SMSBRIDGE_API_KEY" base.queue.key
  let timeout ← env.numberOr "SMSBRIDGE_REQUEST_TIMEOUT_SECS" 64
    base.queue.requestTimeoutSecs.toNat
  let retries ← env.numberOr "SMSBRIDGE_MAX_RETRIES" 32 base.retries.maxRetries.toNat
  return ⟨⟨host, UInt16.ofNat port⟩, ⟨path⟩, ⟨endpoint, key, UInt64.ofNat timeout⟩,
    { base.retries with maxRetries := UInt32.ofNat retries }⟩

end Environment

end SmsGateway
