import SmsGateway.Message.Codec
import SmsGateway.Proofs.Event.Snapshots

namespace SmsGateway.Message

open SmsGateway.Json

/-- All instants that a message holds. -/
def instants (m : Message) : List Time.Instant :=
  [m.requestReceivedAt, m.createdAt, m.updatedAt, m.orderTimestamp] ++
    m.lastAttemptedAt.toList ++ m.notificationScheduledAt.toList ++ m.sentAt.toList ++
    m.deliveredAt.toList ++ m.expiredAt.toList ++ m.failedAt.toList ++ m.receivedAt.toList

theorem forall_instants_iff {m : Message} {P : Time.Instant → Prop} :
    (∀ t ∈ m.instants, P t) ↔
      P m.requestReceivedAt ∧ P m.createdAt ∧ P m.updatedAt ∧ P m.orderTimestamp ∧
        (∀ t ∈ m.lastAttemptedAt, P t) ∧ (∀ t ∈ m.notificationScheduledAt, P t) ∧
        (∀ t ∈ m.sentAt, P t) ∧ (∀ t ∈ m.deliveredAt, P t) ∧ (∀ t ∈ m.expiredAt, P t) ∧
        (∀ t ∈ m.failedAt, P t) ∧ ∀ t ∈ m.receivedAt, P t := by
  simp only [instants, List.forall_mem_append, List.forall_mem_cons, List.not_mem_nil,
    false_implies, implies_true, and_true, Option.mem_toList, Option.mem_def, and_assoc]

/-- A value that is null where there is none. -/
def orNull {α : Type} (encode : α → Json) (value : Option α) : Json :=
  (value.map encode).getD .null

theorem nullable_eq {α : Type} (write : α → List Char) (encode : α → Json)
    (h : ∀ a, write a = (encode a).chars) (value : Option α) :
    nullable write value = (orNull encode value).chars := by
  cases value with
  | none => rfl
  | some a => exact h a

/-- An instant as a value. -/
def instantJson (t : Time.Instant) : Json :=
  .str t.text

/-- The fields of a message as values. -/
def fields (m : Message) : List (String × Json) :=
  [("id", .str m.id.text), ("owner", .str m.owner), ("user_id", .str m.userId),
    ("contact", .str m.contact), ("content", .str m.content), ("type", .str m.type.text),
    ("status", .str m.status.text), ("sim", .str m.sim.text),
    ("send_time", orNull (fun n => .int n.toInt) m.sendDuration),
    ("request_received_at", instantJson m.requestReceivedAt),
    ("created_at", instantJson m.createdAt), ("updated_at", instantJson m.updatedAt),
    ("order_timestamp", instantJson m.orderTimestamp),
    ("last_attempted_at", orNull instantJson m.lastAttemptedAt),
    ("scheduled_at", orNull instantJson m.notificationScheduledAt),
    ("sent_at", orNull instantJson m.sentAt), ("delivered_at", orNull instantJson m.deliveredAt),
    ("expired_at", orNull instantJson m.expiredAt), ("failed_at", orNull instantJson m.failedAt),
    ("can_be_polled", .bool m.canBePolled),
    ("send_attempt_count", .int m.sendAttemptCount.toNat),
    ("max_send_attempts", .int m.maxSendAttempts.toNat),
    ("received_at", orNull instantJson m.receivedAt),
    ("failure_reason", orNull .str m.failureReason)]

theorem map_fst_fields (m : Message) : m.fields.map (·.1) = fieldNames :=
  rfl

theorem jsonChars_eq (m : Message) : m.jsonChars = (Json.obj m.fields).chars := by
  have hinstant := nullable_eq instantChars instantJson (fun _ => rfl)
  have hint :=
    nullable_eq (fun n : Int64 => intChars n.toInt) (fun n => .int n.toInt) (fun _ => rfl)
  have htext := nullable_eq quoted .str (fun _ => rfl)
  simp only [jsonChars, members, hinstant, hint, htext]
  rw [chars, fieldChars_eq_map]
  rfl

theorem forall_fields {P : Json → Prop} (hnull : P .null) (hbool : ∀ b, P (.bool b))
    (hstr : ∀ s, P (.str s)) (hint : ∀ n, (Number.int n).InRange → P (.int n)) (m : Message) :
    ∀ x ∈ m.fields, P x.2 := by
  have hinstant (t : Time.Instant) : P (instantJson t) := hstr t.text
  have hcount (n : UInt32) : P (.int n.toNat) := by
    have hlt := n.toNat_lt
    apply hint
    constructor <;> omega
  have hduration (n : Int64) : P (.int n.toInt) := by
    have hlow := n.le_toInt
    have hhigh := n.toInt_lt
    apply hint
    constructor <;> omega
  have horNull {α : Type} {encode : α → Json} (h : ∀ a, P (encode a)) (value : Option α) :
      P (orNull encode value) := by
    cases value with
    | none => exact hnull
    | some a => exact h a
  simp only [fields, List.forall_mem_cons, hbool, hstr, hcount, hinstant, horNull hinstant,
    horNull hduration, horNull hstr, List.not_mem_nil, false_implies, implies_true, and_true]

theorem integral_fields (m : Message) : (Json.obj m.fields).Integral :=
  .obj (forall_fields .null .bool .str (fun _ hn => .int hn) m)

theorem depth_fields_le (m : Message) : (Json.obj m.fields).depth ≤ 1 := by
  rw [depth]
  apply Nat.succ_le_succ
  rw [fieldsDepth_le_iff]
  exact forall_fields (P := fun v => v.depth ≤ 0) (Nat.le_refl 0) (fun _ => Nat.le_refl 0)
    (fun _ => Nat.le_refl 0) (fun _ _ => Nat.le_refl 0) m

theorem parse_jsonChars (m : Message) :
    Document.parse m.jsonChars.length m.jsonChars = some (.ofJson (.obj m.fields)) := by
  have hdepth : (Json.obj m.fields).depth ≤ (Json.obj m.fields).chars.length := by
    refine Nat.le_trans (depth_fields_le m) ?_
    rw [chars, braced, List.length_cons]
    exact Nat.succ_le_succ (Nat.zero_le _)
  rw [jsonChars_eq]
  exact parse_chars (integral_fields m) hdepth

theorem record?_fields (m : Message) :
    (Document.ofJson (.obj m.fields)).record? fieldNames = some (Record.written m.fields) := by
  refine Document.record?_written ?_ ?_
  · intro x hx
    rw [← map_fst_fields m]
    exact List.mem_map_of_mem hx
  · rw [map_fst_fields]
    decide

section Written

variable {m : Message} {name : String}

theorem required_text_written {s : String} (h : m.fields.lookup name = some (.str s)) :
    (Record.written m.fields).required name Document.text? = some s :=
  Record.required_written h rfl

theorem required_count_written {n : UInt32} (h : m.fields.lookup name = some (.int n.toNat)) :
    (Record.written m.fields).required name Document.count? = some n :=
  Record.required_written h (Document.count?_written n)

theorem required_instant_written {t : Time.Instant}
    (h : m.fields.lookup name = some (instantJson t)) (ht : t.IsReadable) :
    (Record.written m.fields).required name Document.instant? = some t :=
  Record.required_written h (Envelope.instant?_written ht)

theorem optional_instant_written {value : Option Time.Instant}
    (h : m.fields.lookup name = some (orNull instantJson value))
    (hvalue : ∀ t ∈ value, t.IsReadable) :
    (Record.written m.fields).optional name Document.instant? = some value := by
  refine Record.optional_written_orNull h ?_
  intro t ht
  exact ⟨by simp [instantJson], Envelope.instant?_written (hvalue t ht)⟩

theorem optional_int64_written {value : Option Int64}
    (h : m.fields.lookup name = some (orNull (fun n => .int n.toInt) value)) :
    (Record.written m.fields).optional name Document.int64? = some value := by
  refine Record.optional_written_orNull h ?_
  intro n hn
  exact ⟨by simp [Json.int], Document.int64?_written n⟩

theorem optional_text_written {value : Option String}
    (h : m.fields.lookup name = some (orNull .str value)) :
    (Record.written m.fields).optional name Document.text? = some value := by
  refine Record.optional_written_orNull h ?_
  intro s hs
  exact ⟨by simp, rfl⟩

end Written

theorem lookup_fields (m : Message) :
    m.fields.lookup "id" = some (.str m.id.text) ∧
      m.fields.lookup "owner" = some (.str m.owner) ∧
      m.fields.lookup "user_id" = some (.str m.userId) ∧
      m.fields.lookup "contact" = some (.str m.contact) ∧
      m.fields.lookup "content" = some (.str m.content) ∧
      m.fields.lookup "type" = some (.str m.type.text) ∧
      m.fields.lookup "status" = some (.str m.status.text) ∧
      m.fields.lookup "sim" = some (.str m.sim.text) ∧
      m.fields.lookup "send_time" = some (orNull (fun n => .int n.toInt) m.sendDuration) ∧
      m.fields.lookup "request_received_at" = some (instantJson m.requestReceivedAt) ∧
      m.fields.lookup "created_at" = some (instantJson m.createdAt) ∧
      m.fields.lookup "updated_at" = some (instantJson m.updatedAt) ∧
      m.fields.lookup "order_timestamp" = some (instantJson m.orderTimestamp) ∧
      m.fields.lookup "last_attempted_at" = some (orNull instantJson m.lastAttemptedAt) ∧
      m.fields.lookup "scheduled_at" = some (orNull instantJson m.notificationScheduledAt) ∧
      m.fields.lookup "sent_at" = some (orNull instantJson m.sentAt) ∧
      m.fields.lookup "delivered_at" = some (orNull instantJson m.deliveredAt) ∧
      m.fields.lookup "expired_at" = some (orNull instantJson m.expiredAt) ∧
      m.fields.lookup "failed_at" = some (orNull instantJson m.failedAt) ∧
      m.fields.lookup "can_be_polled" = some (.bool m.canBePolled) ∧
      m.fields.lookup "send_attempt_count" = some (.int m.sendAttemptCount.toNat) ∧
      m.fields.lookup "max_send_attempts" = some (.int m.maxSendAttempts.toNat) ∧
      m.fields.lookup "received_at" = some (orNull instantJson m.receivedAt) ∧
      m.fields.lookup "failure_reason" = some (orNull .str m.failureReason) := by
  simp [fields, List.lookup_cons]

theorem ofDocument?_fields {m : Message} (htimes : ∀ t ∈ m.instants, t.IsReadable) :
    ofDocument? (.ofJson (.obj m.fields)) = some m := by
  obtain ⟨hreceivedAt, hcreatedAt, hupdatedAt, horderAt, hattemptedAt, hscheduledAt, hsentAt,
    hdeliveredAt, hexpiredAt, hfailedAt, harrivedAt⟩ := forall_instants_iff.mp htimes
  obtain ⟨hid, howner, huser, hcontact, hcontent, htype, hstatus, hsim, hduration, hreceived,
    hcreated, hupdated, horder, hattempted, hscheduled, hsent, hdelivered, hexpired, hfailed,
    hpolled, hcount, hmax, harrived, hreason⟩ := lookup_fields m
  rw [ofDocument?]
  refine Option.bind_eq_some_iff.mpr ⟨_, record?_fields m, ?_⟩
  refine Option.bind_eq_some_iff.mpr
    ⟨_, Record.required_written hid (Document.uuid?_written _), ?_⟩
  refine Option.bind_eq_some_iff.mpr ⟨_, required_text_written howner, ?_⟩
  refine Option.bind_eq_some_iff.mpr ⟨_, required_text_written huser, ?_⟩
  refine Option.bind_eq_some_iff.mpr ⟨_, required_text_written hcontact, ?_⟩
  refine Option.bind_eq_some_iff.mpr ⟨_, required_text_written hcontent, ?_⟩
  refine Option.bind_eq_some_iff.mpr
    ⟨_, Record.required_written htype (Document.messageType?_written _), ?_⟩
  refine Option.bind_eq_some_iff.mpr
    ⟨_, Record.required_written hstatus (Document.status?_written _), ?_⟩
  refine Option.bind_eq_some_iff.mpr
    ⟨_, Record.required_written hsim (Document.sim?_written _), ?_⟩
  refine Option.bind_eq_some_iff.mpr ⟨_, optional_int64_written hduration, ?_⟩
  refine Option.bind_eq_some_iff.mpr ⟨_, required_instant_written hreceived hreceivedAt, ?_⟩
  refine Option.bind_eq_some_iff.mpr ⟨_, required_instant_written hcreated hcreatedAt, ?_⟩
  refine Option.bind_eq_some_iff.mpr ⟨_, required_instant_written hupdated hupdatedAt, ?_⟩
  refine Option.bind_eq_some_iff.mpr ⟨_, required_instant_written horder horderAt, ?_⟩
  refine Option.bind_eq_some_iff.mpr ⟨_, optional_instant_written hattempted hattemptedAt, ?_⟩
  refine Option.bind_eq_some_iff.mpr ⟨_, optional_instant_written hscheduled hscheduledAt, ?_⟩
  refine Option.bind_eq_some_iff.mpr ⟨_, optional_instant_written hsent hsentAt, ?_⟩
  refine Option.bind_eq_some_iff.mpr ⟨_, optional_instant_written hdelivered hdeliveredAt, ?_⟩
  refine Option.bind_eq_some_iff.mpr ⟨_, optional_instant_written hexpired hexpiredAt, ?_⟩
  refine Option.bind_eq_some_iff.mpr ⟨_, optional_instant_written hfailed hfailedAt, ?_⟩
  refine Option.bind_eq_some_iff.mpr ⟨m.canBePolled, Record.required_written hpolled rfl, ?_⟩
  refine Option.bind_eq_some_iff.mpr ⟨_, required_count_written hcount, ?_⟩
  refine Option.bind_eq_some_iff.mpr ⟨_, required_count_written hmax, ?_⟩
  refine Option.bind_eq_some_iff.mpr ⟨_, optional_instant_written harrived harrivedAt, ?_⟩
  refine Option.bind_eq_some_iff.mpr ⟨_, optional_text_written hreason, ?_⟩
  rfl

theorem isReadable_of_instant? {d : Document} {t : Time.Instant} (h : d.instant? = some t) :
    t.IsReadable := by
  obtain ⟨s, -, hread⟩ := Option.bind_eq_some_iff.mp h
  exact ⟨s, hread⟩

theorem isReadable_of_required {r : Record} {name : String} {t : Time.Instant}
    (h : r.required name Document.instant? = some t) : t.IsReadable := by
  obtain ⟨d, -, hinstant⟩ := Option.bind_eq_some_iff.mp h
  exact isReadable_of_instant? hinstant

theorem isReadable_of_optional {r : Record} {name : String} {value : Option Time.Instant}
    (h : r.optional name Document.instant? = some value) : ∀ t ∈ value, t.IsReadable := by
  rintro t rfl
  obtain ⟨d, -, -, hinstant⟩ := Record.lookup_of_optional h
  exact isReadable_of_instant? hinstant

theorem isReadable_of_ofDocument? {d : Document} {m : Message} (h : ofDocument? d = some m) :
    ∀ t ∈ m.instants, t.IsReadable := by
  obtain ⟨r, -, h⟩ := Option.bind_eq_some_iff.mp h
  obtain ⟨_, -, h⟩ := Option.bind_eq_some_iff.mp h
  obtain ⟨_, -, h⟩ := Option.bind_eq_some_iff.mp h
  obtain ⟨_, -, h⟩ := Option.bind_eq_some_iff.mp h
  obtain ⟨_, -, h⟩ := Option.bind_eq_some_iff.mp h
  obtain ⟨_, -, h⟩ := Option.bind_eq_some_iff.mp h
  obtain ⟨_, -, h⟩ := Option.bind_eq_some_iff.mp h
  obtain ⟨_, -, h⟩ := Option.bind_eq_some_iff.mp h
  obtain ⟨_, -, h⟩ := Option.bind_eq_some_iff.mp h
  obtain ⟨_, -, h⟩ := Option.bind_eq_some_iff.mp h
  obtain ⟨_, hreceived, h⟩ := Option.bind_eq_some_iff.mp h
  obtain ⟨_, hcreated, h⟩ := Option.bind_eq_some_iff.mp h
  obtain ⟨_, hupdated, h⟩ := Option.bind_eq_some_iff.mp h
  obtain ⟨_, horder, h⟩ := Option.bind_eq_some_iff.mp h
  obtain ⟨_, hattempted, h⟩ := Option.bind_eq_some_iff.mp h
  obtain ⟨_, hscheduled, h⟩ := Option.bind_eq_some_iff.mp h
  obtain ⟨_, hsent, h⟩ := Option.bind_eq_some_iff.mp h
  obtain ⟨_, hdelivered, h⟩ := Option.bind_eq_some_iff.mp h
  obtain ⟨_, hexpired, h⟩ := Option.bind_eq_some_iff.mp h
  obtain ⟨_, hfailed, h⟩ := Option.bind_eq_some_iff.mp h
  obtain ⟨_, -, h⟩ := Option.bind_eq_some_iff.mp h
  obtain ⟨_, -, h⟩ := Option.bind_eq_some_iff.mp h
  obtain ⟨_, -, h⟩ := Option.bind_eq_some_iff.mp h
  obtain ⟨_, harrived, h⟩ := Option.bind_eq_some_iff.mp h
  obtain ⟨_, -, h⟩ := Option.bind_eq_some_iff.mp h
  obtain rfl := Option.some.inj h
  exact forall_instants_iff.mpr ⟨isReadable_of_required hreceived,
    isReadable_of_required hcreated, isReadable_of_required hupdated,
    isReadable_of_required horder, isReadable_of_optional hattempted,
    isReadable_of_optional hscheduled, isReadable_of_optional hsent,
    isReadable_of_optional hdelivered, isReadable_of_optional hexpired,
    isReadable_of_optional hfailed, isReadable_of_optional harrived⟩

/-- The JSON of a message loses nothing: the message is read back from what is written. Every message
that was read, from any text, is such a message. -/
theorem json_lossless :
    (∀ m : Message, (∀ t ∈ m.instants, t.IsReadable) → ofChars? m.jsonChars = some m) ∧
    ∀ s m, ofChars? s = some m → ∀ t ∈ m.instants, t.IsReadable := by
  constructor
  · intro m htimes
    rw [ofChars?, parse_jsonChars, Option.bind_some, ofDocument?_fields htimes]
  · intro s m h
    obtain ⟨d, -, hmeans⟩ := Option.bind_eq_some_iff.mp h
    exact isReadable_of_ofDocument? hmeans

theorem json_lossless_extremes :
    let leap : Time.Instant :=
      ⟨⟨2016, 12, 31, by decide, by decide⟩, 86399, 1500000000, by decide, by decide⟩
    let early : Time.Instant := ⟨⟨-44, 3, 15, by decide, by decide⟩, 0, 1, by decide, by decide⟩
    let late : Time.Instant :=
      ⟨⟨262142, 12, 31, by decide, by decide⟩, 86399, 999999999, by decide, by decide⟩
    let m : Message :=
      { inbound ⟨List.replicate 16 255, by decide⟩ "" "\"\\\n\u0000" "\u001f\u007fé😀" "null"
          early with
        sendDuration := some (-9223372036854775808)
        updatedAt := late
        orderTimestamp := leap
        sentAt := some leap
        sendAttemptCount := 4294967295
        failureReason := some "" }
    (∀ t ∈ m.instants, t.IsReadable) ∧ ofChars? m.jsonChars = some m ∧
      ∀ t ∈ m.instants, t.IsReadable := by
  intro leap early late m
  have hleap : leap.IsReadable := ⟨leap.text, by decide +kernel⟩
  have hearly : early.IsReadable := ⟨early.text, by decide +kernel⟩
  have hlate : late.IsReadable := ⟨late.text, by decide +kernel⟩
  have htimes : ∀ t ∈ m.instants, t.IsReadable := by
    intro t ht
    have hcases : t ∈ [early, early, late, leap, leap, early] := ht
    simp only [List.mem_cons, List.not_mem_nil, or_false] at hcases
    rcases hcases with rfl | rfl | rfl | rfl | rfl | rfl
    · exact hearly
    · exact hearly
    · exact hlate
    · exact hleap
    · exact hleap
    · exact hearly
  have hread : ofChars? m.jsonChars = some m := json_lossless.1 m htimes
  exact ⟨htimes, hread, json_lossless.2 _ m hread⟩

end SmsGateway.Message
