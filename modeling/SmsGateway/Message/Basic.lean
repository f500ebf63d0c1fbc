import SmsGateway.Uuid
import SmsGateway.Time.Instant

namespace SmsGateway

/-- Direction of a message relative to the bridging phone. -/
inductive MessageType where
  /-- Sent out by the bridging phone. -/
  | mobileTerminated
  /-- Received by the bridging phone. -/
  | mobileOriginated
  deriving DecidableEq, Repr

/-- Position of a message in its delivery lifecycle. -/
inductive MessageStatus where
  /-- Queued to be sent. -/
  | pending
  /-- Scheduled for the phone to pick up. -/
  | scheduled
  /-- A phone picked up the message and is sending it. -/
  | sending
  | sent
  | received
  /-- The carrier confirmed delivery. -/
  | delivered
  /-- The phone could not send the message. -/
  | failed
  /-- The phone did not pick up or send the message in time. -/
  | expired
  deriving DecidableEq, Repr

/-- The slot of the card that the phone must use to send a message. -/
inductive Sim where
  | slot1
  | slot2
  /-- Whichever card is configured as the default one. -/
  | default
  deriving DecidableEq, Repr

/-- Names of the status reports that a phone emits for a message. -/
inductive ReportName where
  | sent
  | delivered
  | failed
  deriving DecidableEq, Repr

/-- The word of each direction. -/
def MessageType.text : MessageType → String
  | .mobileTerminated => "mobile-terminated"
  | .mobileOriginated => "mobile-originated"

def MessageStatus.text : MessageStatus → String
  | .pending => "pending"
  | .scheduled => "scheduled"
  | .sending => "sending"
  | .sent => "sent"
  | .received => "received"
  | .delivered => "delivered"
  | .failed => "failed"
  | .expired => "expired"

/-- The word of each slot. -/
def Sim.text : Sim → String
  | .slot1 => "ISMS"
  | .slot2 => "ISMS2"
  | .default => "DEFAULT"

def ReportName.text : ReportName → String
  | .sent => "SENT"
  | .delivered => "DELIVERED"
  | .failed => "FAILED"

/-- The direction with a given word. -/
def MessageType.ofText? (s : String) : Option MessageType :=
  [MessageType.mobileTerminated, .mobileOriginated].find? fun t => t.text == s

/-- The status with a given word. -/
def MessageStatus.ofText? (s : String) : Option MessageStatus :=
  [MessageStatus.pending, .scheduled, .sending, .sent, .received, .delivered, .failed,
    .expired].find? fun t => t.text == s

/-- The slot with a given word. -/
def Sim.ofText? (s : String) : Option Sim :=
  [Sim.slot1, .slot2, .default].find? fun t => t.text == s

/-- The report with a given word. -/
def ReportName.ofText? (s : String) : Option ReportName :=
  [ReportName.sent, .delivered, .failed].find? fun t => t.text == s

/-- A text message exchanged between two phone numbers. -/
structure Message where
  id : Uuid
  /-- Number of the bridging phone. -/
  owner : String
  userId : String
  /-- Number of the counterparty. -/
  contact : String
  content : String
  type : MessageType
  status : MessageStatus
  sim : Sim
  /-- Nanoseconds from the request until the phone sent or delivered the message. -/
  sendDuration : Option Int64
  requestReceivedAt : Time.Instant
  createdAt : Time.Instant
  /-- When the last change of state was made, unlike the reported event times. -/
  updatedAt : Time.Instant
  /-- The greatest event time ever applied. -/
  orderTimestamp : Time.Instant
  lastAttemptedAt : Option Time.Instant
  notificationScheduledAt : Option Time.Instant
  sentAt : Option Time.Instant
  deliveredAt : Option Time.Instant
  expiredAt : Option Time.Instant
  failedAt : Option Time.Instant
  canBePolled : Bool
  sendAttemptCount : UInt32
  maxSendAttempts : UInt32
  receivedAt : Option Time.Instant
  failureReason : Option String
  deriving DecidableEq

namespace Message

/-- A pending message for the phone to send. -/
def outbound (id : Uuid) (owner contact content userId : String)
    (requestReceivedAt : Time.Instant) : Message where
  id := id
  owner := owner
  userId := userId
  contact := contact
  content := content
  type := .mobileTerminated
  status := .pending
  sim := .default
  sendDuration := none
  requestReceivedAt := requestReceivedAt
  createdAt := requestReceivedAt
  updatedAt := requestReceivedAt
  orderTimestamp := requestReceivedAt
  lastAttemptedAt := none
  notificationScheduledAt := none
  sentAt := none
  deliveredAt := none
  expiredAt := none
  failedAt := none
  canBePolled := false
  sendAttemptCount := 0
  maxSendAttempts := 1
  receivedAt := none
  failureReason := none

/-- A message that the phone reported as received. -/
def inbound (id : Uuid) (owner contact content userId : String) (receivedAt : Time.Instant) :
    Message :=
  { outbound id owner contact content userId receivedAt with
    type := .mobileOriginated
    status := .received
    receivedAt := some receivedAt }

/-- Whether another send attempt is still allowed. -/
def canBeRescheduled (m : Message) : Bool :=
  m.sendAttemptCount < m.maxSendAttempts

end Message

end SmsGateway
