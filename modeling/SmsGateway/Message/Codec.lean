import SmsGateway.Message.Basic
import SmsGateway.Time.Text
import SmsGateway.Json.Record

namespace SmsGateway

open SmsGateway.Json

namespace Json

def instantChars (t : Time.Instant) : List Char :=
  quoted t.text

/-- A natural number in decimal. -/
def natChars (n : Nat) : List Char :=
  intChars n

namespace Document

def instant? (d : Document) : Option Time.Instant :=
  d.text?.bind Time.Instant.ofText?

def uuid? (d : Document) : Option Uuid :=
  d.text?.bind Uuid.ofText?

def count? (d : Document) : Option UInt32 :=
  (d.nat? 32).map UInt32.ofNat

/-- A signed number of 64 bits. -/
def int64? (d : Document) : Option Int64 :=
  (d.int? (-9223372036854775808) 9223372036854775807).map Int64.ofInt

end Document

end Json

namespace Message

/-- The fields of a message and their texts. -/
def members (m : Message) : List (String × List Char) :=
  [("id", quoted m.id.text), ("owner", quoted m.owner), ("user_id", quoted m.userId),
    ("contact", quoted m.contact), ("content", quoted m.content), ("type", quoted m.type.text),
    ("status", quoted m.status.text), ("sim", quoted m.sim.text),
    ("send_time", nullable (fun n => intChars n.toInt) m.sendDuration),
    ("request_received_at", instantChars m.requestReceivedAt),
    ("created_at", instantChars m.createdAt), ("updated_at", instantChars m.updatedAt),
    ("order_timestamp", instantChars m.orderTimestamp),
    ("last_attempted_at", nullable instantChars m.lastAttemptedAt),
    ("scheduled_at", nullable instantChars m.notificationScheduledAt),
    ("sent_at", nullable instantChars m.sentAt),
    ("delivered_at", nullable instantChars m.deliveredAt),
    ("expired_at", nullable instantChars m.expiredAt),
    ("failed_at", nullable instantChars m.failedAt), ("can_be_polled", boolChars m.canBePolled),
    ("send_attempt_count", natChars m.sendAttemptCount.toNat),
    ("max_send_attempts", natChars m.maxSendAttempts.toNat),
    ("received_at", nullable instantChars m.receivedAt),
    ("failure_reason", nullable quoted m.failureReason)]

def jsonChars (m : Message) : List Char :=
  braced (m.members.map fun f => member f.1 f.2)

def fieldNames : List String :=
  ["id", "owner", "user_id", "contact", "content", "type", "status", "sim", "send_time",
    "request_received_at", "created_at", "updated_at", "order_timestamp", "last_attempted_at",
    "scheduled_at", "sent_at", "delivered_at", "expired_at", "failed_at", "can_be_polled",
    "send_attempt_count", "max_send_attempts", "received_at", "failure_reason"]

/-- The message that a JSON text holds. -/
def ofDocument? (d : Document) : Option Message := do
  let r ← d.record? fieldNames
  let id ← r.required "id" Document.uuid?
  let owner ← r.required "owner" Document.text?
  let userId ← r.required "user_id" Document.text?
  let contact ← r.required "contact" Document.text?
  let content ← r.required "content" Document.text?
  let type ← r.required "type" (Document.named? MessageType.ofText?)
  let status ← r.required "status" (Document.named? MessageStatus.ofText?)
  let sim ← r.required "sim" (Document.named? Sim.ofText?)
  let sendDuration ← r.optional "send_time" Document.int64?
  let requestReceivedAt ← r.required "request_received_at" Document.instant?
  let createdAt ← r.required "created_at" Document.instant?
  let updatedAt ← r.required "updated_at" Document.instant?
  let orderTimestamp ← r.required "order_timestamp" Document.instant?
  let lastAttemptedAt ← r.optional "last_attempted_at" Document.instant?
  let notificationScheduledAt ← r.optional "scheduled_at" Document.instant?
  let sentAt ← r.optional "sent_at" Document.instant?
  let deliveredAt ← r.optional "delivered_at" Document.instant?
  let expiredAt ← r.optional "expired_at" Document.instant?
  let failedAt ← r.optional "failed_at" Document.instant?
  let canBePolled ← r.required "can_be_polled" Document.bool?
  let sendAttemptCount ← r.required "send_attempt_count" Document.count?
  let maxSendAttempts ← r.required "max_send_attempts" Document.count?
  let receivedAt ← r.optional "received_at" Document.instant?
  let failureReason ← r.optional "failure_reason" Document.text?
  return ⟨id, owner, userId, contact, content, type, status, sim, sendDuration,
    requestReceivedAt, createdAt, updatedAt, orderTimestamp, lastAttemptedAt,
    notificationScheduledAt, sentAt, deliveredAt, expiredAt, failedAt, canBePolled,
    sendAttemptCount, maxSendAttempts, receivedAt, failureReason⟩

/-- Reads a message from a text. What its fields do not name may be nested to any depth. -/
def ofChars? (s : List Char) : Option Message :=
  (Document.parse s.length s).bind ofDocument?

end Message

end SmsGateway
