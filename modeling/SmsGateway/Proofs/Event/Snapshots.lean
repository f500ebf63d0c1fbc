import SmsGateway.Event.Kind
import SmsGateway.Proofs.Event.WireForm
import SmsGateway.Proofs.Uuid

namespace SmsGateway

open SmsGateway.Json

namespace Json.Document

theorem uuid?_written (u : Uuid) : uuid? (.ofJson (.str u.text)) = some u := by
  rw [ofJson, uuid?, text?, Option.bind_some, Uuid.ofText?_text]

theorem count?_written (n : UInt32) : count? (.ofJson (.int n.toNat)) = some n := by
  rw [count?, nat?_written n.toNat_lt, Option.map_some, UInt32.ofNat_toNat]

theorem int64?_written (n : Int64) : int64? (.ofJson (.int n.toInt)) = some n := by
  have hlow := n.le_toInt
  have hhigh := n.toInt_lt
  rw [Json.int, ofJson, int64?, int?, if_pos (by omega)]
  simp

theorem messageType?_written (t : MessageType) :
    named? MessageType.ofText? (.ofJson (.str t.text)) = some t := by
  cases t <;> rfl

theorem status?_written (s : MessageStatus) :
    named? MessageStatus.ofText? (.ofJson (.str s.text)) = some s := by
  cases s <;> rfl

theorem sim?_written (s : Sim) : named? Sim.ofText? (.ofJson (.str s.text)) = some s := by
  cases s <;> rfl

end Json.Document

namespace Snapshot

theorem toList_map_eq_optionalField {α : Type} (name : String) (f : α → Json) (value : Option α) :
    (value.toList.map fun a => (name, f a)) = Envelope.optionalField name (value.map f) := by
  cases value <;> rfl

theorem lookup_fields (p : Snapshot) :
    p.fields.lookup "message_id" = some (.str p.messageId.text) ∧
      p.fields.lookup "user_id" = some (.str p.userId) ∧
      p.fields.lookup "owner" = some (.str p.owner) ∧
      p.fields.lookup "contact" = some (.str p.contact) ∧
      p.fields.lookup "content" = some (.str p.content) ∧
      p.fields.lookup "type" = some (.str p.type.text) ∧
      p.fields.lookup "status" = some (.str p.status.text) ∧
      p.fields.lookup "sim" = some (.str p.sim.text) ∧
      p.fields.lookup "timestamp" = some (.str p.timestamp.text) ∧
      p.fields.lookup "order_timestamp" = some (.str p.orderTimestamp.text) ∧
      p.fields.lookup "send_attempt_count" = some (.int p.sendAttemptCount.toNat) ∧
      p.fields.lookup "max_send_attempts" = some (.int p.maxSendAttempts.toNat) ∧
      p.fields.lookup "send_duration" = p.sendDuration.map (fun n => .int n.toInt) ∧
      p.fields.lookup "failure_reason" = p.failureReason.map .str := by
  simp [fields, List.lookup_cons, List.lookup_append, toList_map_eq_optionalField,
    Envelope.lookup_optionalField]

theorem map_fst_fields (p : Snapshot) : (p.fields.map (·.1)).Sublist fieldNames := by
  simp only [fields, toList_map_eq_optionalField, List.map_append]
  exact ((List.Sublist.refl _).append
    (Envelope.map_fst_optionalField "send_duration" _)).append
    (Envelope.map_fst_optionalField "failure_reason" _)

theorem nodup_fields (p : Snapshot) : (p.fields.map (·.1)).Nodup :=
  (map_fst_fields p).nodup (by decide)

theorem forall_fields {P : Json → Prop} (hstr : ∀ s, P (.str s))
    (hint : ∀ n, (Number.int n).InRange → P (.int n)) (p : Snapshot) : ∀ x ∈ p.fields, P x.2 := by
  have hcount (n : UInt32) : P (.int n.toNat) := by
    have hlt := n.toNat_lt
    apply hint
    constructor <;> omega
  refine List.forall_mem_append.mpr ⟨List.forall_mem_append.mpr ⟨?_, ?_⟩, ?_⟩
  · simp only [List.forall_mem_cons, hstr, hcount, List.not_mem_nil, false_implies, implies_true,
      and_true]
  · intro x hx
    obtain ⟨n, -, rfl⟩ := List.mem_map.mp hx
    have hlow := n.le_toInt
    have hhigh := n.toInt_lt
    apply hint
    constructor <;> omega
  · intro x hx
    obtain ⟨s, -, rfl⟩ := List.mem_map.mp hx
    exact hstr s

theorem canonical_toJson (p : Snapshot) : p.toJson.Canonical := by
  refine ⟨NameTable.ascending_ofEntries _, canonicalFields_iff.mpr ?_⟩
  intro x hx
  refine forall_fields (P := Canonical) (fun s => trivial) (fun n hn => hn) p x ?_
  exact NameTable.mem_of_mem_ofEntries hx

theorem integral_toJson (p : Snapshot) : p.toJson.Integral := by
  refine .obj ?_
  intro x hx
  exact forall_fields Integral.str (fun n => Integral.int) p x (NameTable.mem_of_mem_ofEntries hx)

theorem depth_toJson_le (p : Snapshot) : p.toJson.depth ≤ 1 := by
  rw [toJson, depth]
  apply Nat.succ_le_succ
  rw [fieldsDepth_le_iff]
  intro x hx
  refine forall_fields (P := fun v => v.depth ≤ 0) (fun s => ?_) (fun n hn => ?_) p x ?_
  · exact Nat.le_refl 0
  · exact Nat.le_refl 0
  · exact NameTable.mem_of_mem_ofEntries hx

/-- The fields as they are found in the payload. -/
def writtenRecord (p : Snapshot) : Record :=
  (NameTable.ofEntries p.fields).map fun x => (x.1, .ofJson x.2)

theorem record?_toJson (p : Snapshot) :
    (Document.ofJson p.toJson).record? fieldNames = some p.writtenRecord := by
  refine Document.record?_written ?_ (NameTable.ascending_ofEntries _).nodup
  intro x hx
  apply (map_fst_fields p).subset
  exact List.mem_map_of_mem (NameTable.mem_of_mem_ofEntries hx)

section Written

variable {α : Type} {p : Snapshot} {name : String} {decode : Document → Option α}

theorem required_written {v : Json} {a : α} (h : p.fields.lookup name = some v)
    (hdecode : decode (.ofJson v) = some a) : p.writtenRecord.required name decode = some a := by
  rw [← NameTable.lookup_ofEntries (nodup_fields p)] at h
  exact Record.required_written h hdecode

theorem required_text_written {s : String} (h : p.fields.lookup name = some (.str s)) :
    p.writtenRecord.required name Document.text? = some s :=
  required_written h rfl

theorem optional_written {encode : α → Json} {value : Option α}
    (h : p.fields.lookup name = value.map encode)
    (hdecode : ∀ a ∈ value, encode a ≠ .null ∧ decode (.ofJson (encode a)) = some a) :
    p.writtenRecord.optional name decode = some value := by
  rw [← NameTable.lookup_ofEntries (nodup_fields p)] at h
  exact Record.optional_written h hdecode

end Written

theorem ofJson?_toJson {p : Snapshot} (htime : p.timestamp.IsReadable)
    (horder : p.orderTimestamp.IsReadable) : ofJson? p.toJson = some p := by
  obtain ⟨hid, huser, howner, hcontact, hcontent, htype, hstatus, hsim, hat, horderAt, hcount, hmax,
    hduration, hreason⟩ := lookup_fields p
  have hreadDuration : p.writtenRecord.optional "send_duration" Document.int64? =
      some p.sendDuration := by
    refine optional_written hduration ?_
    intro n hn
    exact ⟨by simp [Json.int], Document.int64?_written n⟩
  have hreadReason : p.writtenRecord.optional "failure_reason" Document.text? =
      some p.failureReason := by
    refine optional_written hreason ?_
    intro s hs
    exact ⟨by simp, rfl⟩
  refine Option.bind_eq_some_iff.mpr ⟨_, record?_toJson p, ?_⟩
  refine Option.bind_eq_some_iff.mpr ⟨_, required_written hid (Document.uuid?_written _), ?_⟩
  refine Option.bind_eq_some_iff.mpr ⟨_, required_text_written huser, ?_⟩
  refine Option.bind_eq_some_iff.mpr ⟨_, required_text_written howner, ?_⟩
  refine Option.bind_eq_some_iff.mpr ⟨_, required_text_written hcontact, ?_⟩
  refine Option.bind_eq_some_iff.mpr ⟨_, required_text_written hcontent, ?_⟩
  refine Option.bind_eq_some_iff.mpr
    ⟨_, required_written htype (Document.messageType?_written _), ?_⟩
  refine Option.bind_eq_some_iff.mpr ⟨_, required_written hstatus (Document.status?_written _), ?_⟩
  refine Option.bind_eq_some_iff.mpr ⟨_, required_written hsim (Document.sim?_written _), ?_⟩
  refine Option.bind_eq_some_iff.mpr ⟨_, required_written hat (Envelope.instant?_written htime), ?_⟩
  refine Option.bind_eq_some_iff.mpr
    ⟨_, required_written horderAt (Envelope.instant?_written horder), ?_⟩
  refine Option.bind_eq_some_iff.mpr ⟨_, required_written hcount (Document.count?_written _), ?_⟩
  refine Option.bind_eq_some_iff.mpr ⟨_, required_written hmax (Document.count?_written _), ?_⟩
  refine Option.bind_eq_some_iff.mpr ⟨_, hreadDuration, ?_⟩
  refine Option.bind_eq_some_iff.mpr ⟨_, hreadReason, ?_⟩
  rfl

end Snapshot

end SmsGateway
