import SmsGateway.Number.Shortest
import SmsGateway.Number.Single
import SmsGateway.Time.Span

namespace SmsGateway

open SmsGateway.Time SmsGateway.Number

/-- How failed deliveries are tried again. -/
structure RetryPolicy where
  maxRetries : UInt32
  initialDelayMs : UInt64
  maxDelayMs : UInt64
  multiplier : Single
  deriving DecidableEq, Repr

namespace RetryPolicy

/-- The policy where nothing else is configured. -/
def standard : RetryPolicy := ⟨5, 100, 30000, .ofFloat32 2.0⟩

def second : Nat := 1000000000

/-- A span in seconds, in 32-bit precision. -/
def seconds (t : Span) : Float32 :=
  (UInt64.ofNat (t.nanos / second)).toFloat32 +
    (UInt64.ofNat (t.nanos % second)).toFloat32 / 1000000000.0

/-- The span of some seconds to the nearest nanosecond; the longest one if they are no span. -/
def ofSeconds (x : Float32) : Span :=
  if x.isNaN || x < 0.0 || x.isInf then .longest
  else
    let nanos := (Binary.ofFloat32 x).scaled second
    if Span.longest.nanos < nanos then .longest else ⟨nanos⟩

def nextDelay (p : RetryPolicy) (delay : Span) : Span :=
  let limit := Span.ofMillis p.maxDelayMs.toNat
  let grown :=
    if delay.nanos < limit.nanos then ofSeconds (p.multiplier.toFloat32 * seconds delay) else delay
  if limit.nanos < grown.nanos then limit else grown

def firstDelay (p : RetryPolicy) : Span :=
  .ofMillis p.initialDelayMs.toNat

def diagnostic (p : RetryPolicy) : String :=
  s!"RetryPolicy \x7b max_retries: {p.maxRetries}, initial_delay_ms: {p.initialDelayMs}, " ++
    s!"max_delay_ms: {p.maxDelayMs}, multiplier: {showFloat32 p.multiplier.toFloat32} \x7d"

end RetryPolicy

end SmsGateway
