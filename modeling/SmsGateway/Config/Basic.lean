import SmsGateway.Delivery.RetryPolicy

namespace SmsGateway

/-- Where the server listens. -/
structure ServerSettings where
  host : String
  port : UInt16
  deriving DecidableEq, Repr

/-- Where the event log is. -/
structure LogSettings where
  path : String
  deriving DecidableEq, Repr

/-- Where deliveries are sent and how they are signed. -/
structure QueueSettings where
  endpoint : String
  key : String
  requestTimeoutSecs : UInt64
  deriving DecidableEq, Repr

/-- A configuration. -/
structure Config where
  server : ServerSettings
  log : LogSettings
  queue : QueueSettings
  retries : RetryPolicy
  deriving DecidableEq, Repr

/-- The standard place to listen. -/
def ServerSettings.standard : ServerSettings := ⟨"0.0.0.0", 8000⟩

def joinPath (directory name : String) : String :=
  if directory = "" then name
  else if directory.endsWith "/" then directory ++ name
  else directory ++ "/" ++ name

/-- The standard event log of a user, by the user's home directory. -/
def LogSettings.standard (home : String) : LogSettings :=
  ⟨joinPath (joinPath home ".smsbridge") "events.db"⟩

/-- The standard receiver of deliveries. There is no standard key. -/
def QueueSettings.standard : QueueSettings :=
  ⟨"http://localhost:8000/v1/events/consume", "", 30⟩

/-- The configuration of a user who configured nothing. -/
def Config.standard (home : String) : Config :=
  ⟨.standard, .standard home, .standard, .standard⟩

end SmsGateway
