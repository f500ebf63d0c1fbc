import SmsGateway.Config.Basic

namespace SmsGateway

/-- Deliveries to a receiver under a key, with the standard timeout. -/
def QueueSettings.to (endpoint key : String) : QueueSettings :=
  { QueueSettings.standard with endpoint, key }

/-- One setting of a configuration. -/
inductive Config.Setting where
  | server (host : String) (port : UInt16)
  | log (path : String)
  | queue (q : QueueSettings)
  | retries (p : RetryPolicy)
  deriving DecidableEq, Repr

namespace Config

def set (c : Config) : Setting → Config
  | .server host port => { c with server := ⟨host, port⟩ }
  | .log path => { c with log := ⟨path⟩ }
  | .queue q => { c with queue := q }
  | .retries p => { c with retries := p }

def build (home : String) (settings : List Setting) : Config :=
  settings.foldl set (.standard home)

end Config

end SmsGateway
