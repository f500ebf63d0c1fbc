import SmsGateway.Delivery.RetryPolicy
import SmsGateway.Delivery.Task
import SmsGateway.Http.Status
import SmsGateway.Notice

/-!
Attempts to deliver a task. An answer of success ends a delivery, and so does a refusal by the
receiver, after which the task is dropped. Where the receiver failed or could not be reached the
attempt is repeated after a delay, as often as the retry policy allows.
-/

namespace SmsGateway

/-- How a call of a receiver ends, after redirects. -/
inductive Reply where
  /-- No answer came, or the request could not be made. -/
  | unreachable
  | answered (status : Nat) (body : String)
  deriving DecidableEq, Repr

/-- What an attempt comes to. -/
inductive Verdict where
  | success
  | transient (message : String)
  | permanent (message : String)
  deriving DecidableEq, Repr

def Reply.verdict : Reply → Verdict
  | .unreachable => .transient "network error"
  | .answered status body =>
      if Http.isSuccess status then .success
      else if Http.isServerError status then .transient s!"server error: {Http.statusText status}"
      else .permanent s!"client error {Http.statusText status}: {body}"

/-- How a delivery ends. -/
inductive DeliveryEnd where
  | delivered
  | dropped
  | cancelled
  deriving DecidableEq, Repr

namespace Delivery

def transientText (message : String) : String :=
  s!"transient delivery error: {message}"

def delivered : Notice :=
  .of .debug "push task delivered" []

def dropped (text : String) : Notice :=
  .ofError .error "push task dropped" text

def retrying (message : String) (delay : Time.Span) : Notice :=
  .of .warn "push task delivery failed, retrying"
    [("error", transientText message), ("retry_in", delay.text)]

def cancelled : Notice :=
  .of .warn "push task cancelled before delivery" []

variable {σ : Type}

/-- Attempts a delivery until it ends, with so many repetitions at most; the delay is the one before
the next of them. -/
def attempt (call : DeliveryTask → σ → Reply × σ) (p : RetryPolicy) (t : DeliveryTask) :
    (repetitions : Nat) → Time.Span → σ → DeliveryEnd × List Notice × σ
  | repetitions, delay, s =>
      let (reply, s) := call t s
      match reply.verdict, repetitions with
      | .success, _ => (.delivered, [delivered], s)
      | .permanent message, _ =>
          (.dropped, [dropped s!"permanent delivery error: {message}"], s)
      | .transient message, 0 => (.dropped, [dropped (transientText message)], s)
      | .transient message, repetitions + 1 =>
          let (ending, notices, s) := attempt call p t repetitions (p.nextDelay delay) s
          (ending, retrying message delay :: notices, s)

/-- Attempts a delivery until it ends, with as many repetitions as a policy allows. -/
def run (call : DeliveryTask → σ → Reply × σ) (p : RetryPolicy) (t : DeliveryTask) (s : σ) :
    DeliveryEnd × List Notice × σ :=
  attempt call p t p.maxRetries.toNat p.firstDelay s

/-- Attempts a delivery once and gives it up if it would have to be repeated. -/
def runOnce (call : DeliveryTask → σ → Reply × σ) (p : RetryPolicy) (t : DeliveryTask) (s : σ) :
    DeliveryEnd × List Notice × σ :=
  let (reply, s') := call t s
  match reply.verdict, p.maxRetries.toNat with
  | .transient message, _ + 1 => (.cancelled, [retrying message p.firstDelay, cancelled], s')
  | _, _ => attempt call p t 0 p.firstDelay s

end Delivery

end SmsGateway
