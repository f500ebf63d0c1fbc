import SmsGateway.Config.File
import SmsGateway.Config.Validation
import SmsGateway.Event.Kind
import SmsGateway.EventLog.Directory
import SmsGateway.Server.Basic
import SmsGateway.Startup.Address
import SmsGateway.Startup.Variables

namespace SmsGateway.Startup

/-- Why the gateway does not start. -/
inductive StartFailure where
  | refused (failure : Failure)
  /-- The configured host is no address. -/
  | noAddress
  /-- The address cannot be listened on. -/
  | notBound
  deriving DecidableEq

def StartFailure.text : StartFailure → String
  | .refused f => f.text
  | .noAddress => "invalid socket address syntax"
  | .notBound => "the address cannot be listened on"

/-- A gateway that is ready to listen. -/
structure Ready where
  config : Config
  log : LogHandle
  address : String

def variablesFile : String := ".env"

def configVariable : String := "SMSBRIDGE_CONFIG"

def variableNames : List String :=
  [configVariable, "SMSBRIDGE_HOST", "SMSBRIDGE_PORT", "SMSBRIDGE_EVENT_DB_PATH",
    "SMSBRIDGE_CONSUMER_ENDPOINT", "SMSBRIDGE_API_KEY", "SMSBRIDGE_REQUEST_TIMEOUT_SECS",
    "SMSBRIDGE_MAX_RETRIES"]

def fileName (path : String) : String :=
  (Directory.names path).getLast?.getD ""

/-- The environment with the variables of the file beside the gateway. -/
def environment (given : Environment) (d : Directory) : Environment :=
  match (d.content? variablesFile).bind Text.ofBytes? with
  | some content => withFile given content
  | none => given

/-- The configuration: the one in the file that a variable names, or the one that the variables
give. -/
def configure (env : Environment) (home : String) (d : Directory) : Except Failure Config := do
  let config ← match NameTable.find? env configVariable with
    | some path => Config.ofFile home (fileName path) (d.content? path)
    | none => env.config home
  config.validate
  return config

def prepare (given : Environment) (home : String) (canListen : String → Bool) (d : Directory) :
    Except StartFailure Ready × Directory :=
  match configure (environment given d) home d with
  | .error f => (.error (.refused f), d)
  | .ok config =>
      match d.openLog config.log.path with
      | (.error f, d) => (.error (.refused f), d)
      | (.ok log, d) =>
          match address? config.server.host config.server.port with
          | none => (.error .noAddress, d)
          | some address =>
              if canListen config.server.host then (.ok ⟨config, log, address⟩, d)
              else (.error .notBound, d)

def auditor : String := "event-audit"

/-- The server of a configuration, with the auditor subscribed to every kind of event. -/
def server (config : Config) : Server String where
  key := config.queue.key
  dispatcher :=
    ⟨config.queue.endpoint, config.queue.key,
      EventKind.all.foldl (fun r k => Registry.subscribe r k.eventType auditor) .empty⟩

def auditNotice (e : Envelope) : Notice :=
  .of .info "message event"
    [("event_id", e.id), ("event_type", e.type), ("message_id", e.subject.getD "")]

end SmsGateway.Startup
