import SmsGateway.Config.Basic

/-!
How a configuration is read from a document, whatever format the document is written in. A format
tells how its values are read as texts, numbers and sections; a section that is left out is a
standard one, and so is each setting that is left out of a section. Unknown names are passed over.
-/

namespace SmsGateway

/-- How the values of a format are read. -/
structure Reading (δ : Type) where
  text? : δ → Option String
  /-- A natural number of at most some bits. -/
  nat? : Nat → δ → Option Nat
  real? : δ → Option Number.Single
  /-- The values of a section that have one of the given names. -/
  fields? : List String → δ → Option (List (String × δ))

namespace Reading

variable {δ α : Type}

/-- A setting of a section, or its standard value. -/
def setting (fields : List (String × δ)) (name : String) (standard : α) (read : δ → Option α) :
    Option α :=
  match fields.lookup name with
  | none => some standard
  | some d => read d

def server? (r : Reading δ) (d : δ) : Option ServerSettings := do
  let base := ServerSettings.standard
  let fields ← r.fields? ["host", "port"] d
  let host ← setting fields "host" base.host r.text?
  let port ← setting fields "port" base.port fun d => (r.nat? 16 d).map UInt16.ofNat
  return ⟨host, port⟩

def log? (r : Reading δ) (home : String) (d : δ) : Option LogSettings := do
  let fields ← r.fields? ["path"] d
  let path ← setting fields "path" (LogSettings.standard home).path r.text?
  return ⟨path⟩

/-- Where deliveries are sent. -/
def queue? (r : Reading δ) (d : δ) : Option QueueSettings := do
  let base := QueueSettings.standard
  let fields ← r.fields? ["consumer_endpoint", "user_api_key", "request_timeout_secs"] d
  let endpoint ← setting fields "consumer_endpoint" base.endpoint r.text?
  let key ← setting fields "user_api_key" base.key r.text?
  let timeout ← setting fields "request_timeout_secs" base.requestTimeoutSecs fun d =>
    (r.nat? 64 d).map UInt64.ofNat
  return ⟨endpoint, key, timeout⟩

/-- How deliveries are tried again. -/
def retries? (r : Reading δ) (d : δ) : Option RetryPolicy := do
  let base := RetryPolicy.standard
  let fields ← r.fields? ["max_retries", "initial_delay_ms", "max_delay_ms", "multiplier"] d
  let maxRetries ← setting fields "max_retries" base.maxRetries fun d =>
    (r.nat? 32 d).map UInt32.ofNat
  let initialDelayMs ← setting fields "initial_delay_ms" base.initialDelayMs fun d =>
    (r.nat? 64 d).map UInt64.ofNat
  let maxDelayMs ← setting fields "max_delay_ms" base.maxDelayMs fun d =>
    (r.nat? 64 d).map UInt64.ofNat
  let multiplier ← setting fields "multiplier" base.multiplier r.real?
  return ⟨maxRetries, initialDelayMs, maxDelayMs, multiplier⟩

def config? (r : Reading δ) (home : String) (d : δ) : Option Config := do
  let base := Config.standard home
  let fields ← r.fields? ["server", "event_log", "queue", "retry_policy"] d
  let server ← setting fields "server" base.server r.server?
  let log ← setting fields "event_log" base.log (r.log? home)
  let queue ← setting fields "queue" base.queue r.queue?
  let retries ← setting fields "retry_policy" base.retries r.retries?
  return ⟨server, log, queue, retries⟩

end Reading

end SmsGateway
