import SmsGateway.Config.Basic
import SmsGateway.Failure
import SmsGateway.Text.Blank
import SmsGateway.Url.Basic

namespace SmsGateway

/-- The rules for where deliveries are sent, in the order in which they are checked. -/
def QueueSettings.validate (q : QueueSettings) : Except Failure Unit :=
  match Url.scheme q.endpoint with
  | .error e =>
      .error (.configuration
        s!"consumer endpoint '{q.endpoint}' is not a valid URL: {e.text}")
  | .ok scheme =>
      if scheme ≠ "http" ∧ scheme ≠ "https" then
        .error (.configuration s!"consumer endpoint must use http or https, got '{scheme}'")
      else if Text.isBlankText q.key then
        .error (.configuration "queue user_api_key must be set")
      else .ok ()

def Config.validate (c : Config) : Except Failure Unit := do
  c.queue.validate
  if c.retries.multiplier.toFloat32 < 1.0 then
    throw (.configuration "retry_policy.multiplier must be at least 1.0")

end SmsGateway
