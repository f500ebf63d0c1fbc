import SmsGateway.Message.Basic
import SmsGateway.Text.Blank

/-!
The lifecycle of a message as a list of transitions. Reports from the phone may come late, twice
or out of order, so a transition never refuses a backward move: it sets the status, and its time
goes into the order timestamp, which only ever moves forward. `Message.apply` is one transition
and `Message.run` a sequence of them, each with the wall-clock time at which it is made.
-/

namespace SmsGateway

open SmsGateway.Time

/-- A change in the life of a message. -/
inductive Transition where
  | scheduledFor (time : Instant)
  /-- A phone picked the message up for sending. -/
  | sendAttempt (time : Instant)
  /-- One more attempt is counted, whatever the status. -/
  | countAttempt
  | sent (time : Instant)
  | delivered (time : Instant)
  | failed (time : Instant) (reason : String)
  /-- The message expired; the phone may poll for it again. -/
  | expired (time : Instant)
  /-- A push notification to the phone was scheduled. -/
  | notificationScheduled (time : Instant)
  /-- A limit on send attempts is set; no event, so the change is not timed. -/
  | limitAttempts (count : UInt32)
  deriving DecidableEq

/-- The reason of a failure that the phone reported without one. -/
def unknownReason : String := "UNKNOWN"

/-- The reason of a failure report: without blanks at its ends, and never blank. -/
def normalReason (reason : Option String) : String :=
  match reason with
  | none => unknownReason
  | some r => if Text.isBlankText r then unknownReason else Text.trim r

/-- The transition that a status report stands for. -/
def Transition.ofReport (name : ReportName) (time : Instant) (reason : Option String) :
    Transition :=
  match name with
  | .sent => .sent time
  | .delivered => .delivered time
  | .failed => .failed time (normalReason reason)

/-- Whether making a transition notes the wall-clock time. -/
def Transition.isTimed : Transition → Bool
  | .limitAttempts _ => false
  | _ => true

namespace Message

/-- Nanoseconds as a 64-bit integer, the nearest one when they do not fit. -/
def saturated (n : Int) : Int64 :=
  Int64.ofInt (max (-9223372036854775808) (min 9223372036854775807 n))

def sinceRequest (m : Message) (time : Instant) : Int64 :=
  saturated (time.elapsed m.requestReceivedAt)

/-- Notes an event time and the time of the change itself. -/
def touch (m : Message) (time now : Instant) : Message :=
  { m with orderTimestamp := m.orderTimestamp.later time, updatedAt := now }

/-- Makes one transition. A delivery sets the send duration only when none is known. -/
def apply (m : Message) (now : Instant) : Transition → Message
  | .scheduledFor time =>
      { m with status := .scheduled, notificationScheduledAt := some time }.touch time now
  | .sendAttempt time =>
      { m with status := .sending, lastAttemptedAt := some time }.touch time now
  | .countAttempt =>
      { m with
        sendAttemptCount :=
          if m.sendAttemptCount < 4294967295 then m.sendAttemptCount + 1 else m.sendAttemptCount
        updatedAt := now }
  | .sent time =>
      { m with
        sentAt := some time
        status := .sent
        sendDuration := some (m.sinceRequest time) }.touch time now
  | .delivered time =>
      { m with
        deliveredAt := some time
        status := .delivered
        sendDuration := some (m.sendDuration.getD (m.sinceRequest time)) }.touch time now
  | .failed time reason =>
      { m with failedAt := some time, status := .failed, failureReason := some reason }.touch time
        now
  | .expired time =>
      { m with expiredAt := some time, status := .expired, canBePolled := true }.touch time now
  | .notificationScheduled time =>
      { m with
        notificationScheduledAt := some time
        status :=
          if m.status = MessageStatus.expired ∨ m.status = MessageStatus.pending then .scheduled
          else m.status }.touch time
        now
  | .limitAttempts count => { m with maxSendAttempts := count }

/-- Makes transitions one after another, each at its own wall-clock time. -/
def run (m : Message) (steps : List (Instant × Transition)) : Message :=
  steps.foldl (fun m s => m.apply s.1 s.2) m

end Message

end SmsGateway
