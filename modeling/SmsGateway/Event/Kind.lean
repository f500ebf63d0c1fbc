import SmsGateway.Event.Wire
import SmsGateway.Message.Lifecycle

/-!
The events in the life of a message. An event's payload is a snapshot of the message at the time
of the occurrence; a status report from the phone is applied to the message first, so that its
event shows the message after it.
-/

namespace SmsGateway

open SmsGateway.Json

/-- The kinds of message events. -/
inductive EventKind where
  /-- A message was accepted for sending. -/
  | apiSent
  /-- A phone picked up the message. -/
  | phoneSending
  | phoneSent
  /-- The carrier delivered the message. -/
  | phoneDelivered
  | sendFailed
  /-- The phone did not send the message in time. -/
  | sendExpired
  /-- A push notification to the phone was scheduled. -/
  | notificationScheduled
  /-- The phone received an inbound message. -/
  | phoneReceived
  deriving DecidableEq, Repr

namespace EventKind

/-- All kinds, in the order of a message's life. -/
def all : List EventKind :=
  [.apiSent, .notificationScheduled, .phoneSending, .phoneSent, .phoneDelivered, .sendFailed,
    .sendExpired, .phoneReceived]

def eventType : EventKind → String
  | .apiSent => "message.api.sent"
  | .phoneSending => "message.phone.sending"
  | .phoneSent => "message.phone.sent"
  | .phoneDelivered => "message.phone.delivered"
  | .sendFailed => "message.send.failed"
  | .sendExpired => "message.send.expired"
  | .notificationScheduled => "message.notification.scheduled"
  | .phoneReceived => "message.phone.received"

def name : EventKind → String
  | .apiSent => "api_sent"
  | .phoneSending => "phone_sending"
  | .phoneSent => "phone_sent"
  | .phoneDelivered => "phone_delivered"
  | .sendFailed => "send_failed"
  | .sendExpired => "send_expired"
  | .notificationScheduled => "notification_scheduled"
  | .phoneReceived => "phone_received"

def ofEventType? (s : String) : Option EventKind :=
  all.find? fun k => k.eventType == s

def ofName? (s : String) : Option EventKind :=
  all.find? fun k => k.name == s

/-- The kind of the event that a status report raises. -/
def ofReport : ReportName → EventKind
  | .sent => .phoneSent
  | .delivered => .phoneDelivered
  | .failed => .sendFailed

end EventKind

/-- A snapshot of a message at the time of an occurrence. -/
structure Snapshot where
  messageId : Uuid
  userId : String
  owner : String
  contact : String
  content : String
  type : MessageType
  status : MessageStatus
  sim : Sim
  /-- When it happened, not when it was reported. -/
  timestamp : Time.Instant
  orderTimestamp : Time.Instant
  sendAttemptCount : UInt32
  maxSendAttempts : UInt32
  sendDuration : Option Int64
  failureReason : Option String
  deriving DecidableEq

namespace Snapshot

def ofMessage (m : Message) (timestamp : Time.Instant) : Snapshot :=
  ⟨m.id, m.userId, m.owner, m.contact, m.content, m.type, m.status, m.sim, timestamp,
    m.orderTimestamp, m.sendAttemptCount, m.maxSendAttempts, m.sendDuration, m.failureReason⟩

/-- The fields of a snapshot in their declared order, without the ones that are not set. -/
def fields (p : Snapshot) : List (String × Json) :=
  [("message_id", .str p.messageId.text), ("user_id", .str p.userId), ("owner", .str p.owner),
    ("contact", .str p.contact), ("content", .str p.content), ("type", .str p.type.text),
    ("status", .str p.status.text), ("sim", .str p.sim.text),
    ("timestamp", .str p.timestamp.text), ("order_timestamp", .str p.orderTimestamp.text),
    ("send_attempt_count", .int p.sendAttemptCount.toNat),
    ("max_send_attempts", .int p.maxSendAttempts.toNat)] ++
    (p.sendDuration.toList.map fun n => ("send_duration", .int n.toInt)) ++
    (p.failureReason.toList.map fun r => ("failure_reason", .str r))

def toJson (p : Snapshot) : Json :=
  .obj (NameTable.ofEntries p.fields)

def jsonChars (p : Snapshot) : List Char :=
  chars (.obj p.fields)

/-- The names of a snapshot's fields. -/
def fieldNames : List String :=
  ["message_id", "user_id", "owner", "contact", "content", "type", "status", "sim", "timestamp",
    "order_timestamp", "send_attempt_count", "max_send_attempts", "send_duration",
    "failure_reason"]

/-- The snapshot that a JSON text holds. -/
def ofDocument? (d : Document) : Option Snapshot := do
  let r ← d.record? fieldNames
  let messageId ← r.required "message_id" Document.uuid?
  let userId ← r.required "user_id" Document.text?
  let owner ← r.required "owner" Document.text?
  let contact ← r.required "contact" Document.text?
  let content ← r.required "content" Document.text?
  let type ← r.required "type" (Document.named? MessageType.ofText?)
  let status ← r.required "status" (Document.named? MessageStatus.ofText?)
  let sim ← r.required "sim" (Document.named? Sim.ofText?)
  let timestamp ← r.required "timestamp" Document.instant?
  let orderTimestamp ← r.required "order_timestamp" Document.instant?
  let sendAttemptCount ← r.required "send_attempt_count" Document.count?
  let maxSendAttempts ← r.required "max_send_attempts" Document.count?
  let sendDuration ← r.optional "send_duration" Document.int64?
  let failureReason ← r.optional "failure_reason" Document.text?
  return ⟨messageId, userId, owner, contact, content, type, status, sim, timestamp,
    orderTimestamp, sendAttemptCount, maxSendAttempts, sendDuration, failureReason⟩

/-- The snapshot that a JSON value holds. -/
def ofJson? (v : Json) : Option Snapshot :=
  ofDocument? (.ofJson v)

end Snapshot

def messageEventSource : String := "/v1/messages"

/-- The extension attribute that carries the owning account. -/
def userIdExtension : String := "userid"

def EventKind.envelope (k : EventKind) (id : String) (m : Message) (timestamp : Time.Instant) :
    Envelope :=
  let e := (Envelope.create id k.eventType messageEventSource (some timestamp)).withData
    (Snapshot.ofMessage m timestamp).toJson
  { e with subject := some m.id.text }.withExtension userIdExtension (.str m.userId)

/-- Applies a status report to a message, and the event that tells of it. -/
def Message.report (m : Message) (now : Time.Instant) (id : String) (name : ReportName)
    (timestamp : Time.Instant) (reason : Option String) : Message × Envelope :=
  let m := m.apply now (.ofReport name timestamp reason)
  (m, (EventKind.ofReport name).envelope id m timestamp)

end SmsGateway
