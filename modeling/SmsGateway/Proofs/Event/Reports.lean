import SmsGateway.Proofs.Event.Rules
import SmsGateway.Proofs.Event.Snapshots
import SmsGateway.Proofs.Message.Ordering
import SmsGateway.Proofs.Text.Scanning

namespace SmsGateway

open SmsGateway.Time

/-- The snapshot that an event carries. -/
def Envelope.snapshot? (e : Envelope) : Option Snapshot :=
  e.payload.toOption.bind Snapshot.ofJson?

/-- What an event of some kind tells of a message. -/
structure Envelope.TellsOf (e : Envelope) (k : EventKind) (m : Message) (time : Instant) :
    Prop where
  valid : e.validate = .ok ()
  kind : EventKind.ofEventType? e.type = some k
  timed : e.time = some time
  subject : e.subject = some m.id.text
  userId : e.extensionText? userIdExtension = some m.userId
  snapshot : e.snapshot? = some (.ofMessage m time)
  lossless : Envelope.ofBytes e.wireBytes = .ok e

namespace EventKind

theorem ofEventType?_eventType (k : EventKind) : ofEventType? k.eventType = some k := by
  cases k <;> rfl

variable (k : EventKind) (id : String) (m : Message) (time : Instant)

theorem values_envelope :
    (k.envelope id m time).values = [(Snapshot.ofMessage m time).toJson, .str m.userId] := rfl

theorem isProper_envelope : (k.envelope id m time).IsProper := by
  refine ⟨List.pairwise_singleton _ _, ?_⟩
  rw [values_envelope]
  refine List.forall_mem_cons.mpr ⟨Snapshot.canonical_toJson _, ?_⟩
  exact List.forall_mem_singleton.mpr trivial

theorem isIntegral_envelope : (k.envelope id m time).IsIntegral := by
  rw [Envelope.IsIntegral, values_envelope]
  refine List.forall_mem_cons.mpr ⟨Snapshot.integral_toJson _, ?_⟩
  exact List.forall_mem_singleton.mpr (.str _)

variable {time} in
theorem isReadable_envelope (htime : time.IsReadable) : (k.envelope id m time).IsReadable := by
  constructor
  · have hname : userIdExtension ∉ coreNames := by decide
    exact List.forall_mem_singleton.mpr hname
  · exact nofun
  · rw [values_envelope]
    refine List.forall_mem_cons.mpr ⟨?_, List.forall_mem_singleton.mpr (Nat.zero_le _)⟩
    exact (Snapshot.depth_toJson_le _).trans (by decide)
  · rintro t ht
    obtain rfl := Option.some.inj ht
    exact htime

variable {id} in
theorem validate_envelope (hid : Text.isBlankText id = false) :
    (k.envelope id m time).validate = .ok () := by
  have hsource : Text.isBlankText messageEventSource = false := by decide
  have hreference : messageEventSource.toList.any Text.isBlank = false := by decide
  have htype : Text.isBlankText k.eventType = false := by cases k <;> decide
  have hcontent : Envelope.isSetBlank (some jsonContentType) = false := by decide
  have hname : Envelope.validateName userIdExtension = .ok () := by decide +kernel
  rw [Envelope.validate, if_neg, if_neg, if_neg, if_neg, if_neg, if_neg, if_neg, if_neg]
  · exact Envelope.forM_eq_ok_iff.mpr (List.forall_mem_singleton.mpr hname)
  · exact Bool.false_ne_true
  · exact Bool.false_ne_true
  · exact ne_true_of_eq_false hcontent
  · exact ne_true_of_eq_false htype
  · exact ne_true_of_eq_false hreference
  · exact ne_true_of_eq_false hsource
  · exact ne_true_of_eq_false hid
  · simp [envelope, Envelope.withData, Envelope.withExtension, Envelope.create]

variable {id time} in
theorem tellsOf_envelope (hid : Text.isBlankText id = false) (htime : time.IsReadable)
    (horder : m.orderTimestamp.IsReadable) :
    (k.envelope id m time).TellsOf k m time where
  valid := validate_envelope k m time hid
  kind := ofEventType?_eventType k
  timed := rfl
  subject := rfl
  userId := rfl
  snapshot := Snapshot.ofJson?_toJson (p := .ofMessage m time) htime horder
  lossless := Envelope.ofBytes_wireBytes (isProper_envelope k id m time)
    (isReadable_envelope k id m htime) (isIntegral_envelope k id m time)

end EventKind

theorem normalReason_eq (reason : Option String) :
    normalReason reason =
      if Text.trim (reason.getD "") = "" then unknownReason else Text.trim (reason.getD "") := by
  cases reason with
  | none => rfl
  | some r => simp only [normalReason, Option.getD_some, Text.trim_eq_empty_iff]

theorem isBlankText_normalReason (reason : Option String) :
    Text.isBlankText (normalReason reason) = false := by
  rw [normalReason_eq]
  split
  · decide
  · next hne => exact Bool.eq_false_iff.mpr fun h => hne ((Text.isBlankText_trim_iff _).mp h)

namespace Message

theorem isReadable_orderTimestamp_apply {m : Message} {time : Instant}
    (horder : m.orderTimestamp.IsReadable) (htime : time.IsReadable) (now : Instant)
    (name : ReportName) (reason : Option String) :
    (m.apply now (.ofReport name time reason)).orderTimestamp.IsReadable := by
  have htold : (Transition.ofReport name time reason).time? = some time :=
    transition_time? (.reported name time reason)
  rw [orderTimestamp_apply, htold, Option.elim_some]
  rcases max_choice m.orderTimestamp time with h | h
  · rwa [h]
  · rwa [h]

/-- A report makes its transition, and its event tells of the message after it: it keeps the rules,
it is read back as itself, and its snapshot is that of the message then. A reported failure shows
its reason without blanks at its ends, or a word for none. -/
theorem report_tells (m : Message) (now : Instant) (eventId : Uuid) (name : ReportName)
    (time : Instant) (reason : Option String) (horder : m.orderTimestamp.IsReadable)
    (htime : time.IsReadable) :
    let after := m.apply now (.ofReport name time reason)
    let e := (m.report now eventId.text name time reason).2
    (m.report now eventId.text name time reason).1 = after ∧
      e.TellsOf (.ofReport name) after time ∧
      (name = .failed → ∃ shown, e.snapshot?.bind Snapshot.failureReason = some shown ∧
        shown = (if Text.trim (reason.getD "") = "" then "UNKNOWN"
          else Text.trim (reason.getD "")) ∧
        Text.isBlankText shown = false) := by
  intro after e
  have htells : e.TellsOf (.ofReport name) after time :=
    EventKind.tellsOf_envelope _ after (Uuid.isBlankText_text eventId) htime
      (isReadable_orderTimestamp_apply horder htime now name reason)
  refine ⟨rfl, htells, ?_⟩
  rintro rfl
  refine ⟨normalReason reason, ?_, normalReason_eq reason, isBlankText_normalReason reason⟩
  rw [htells.snapshot]
  rfl

theorem report_tells_leap :
    let requested : Instant := ⟨⟨2016, 12, 31, by decide, by decide⟩, 0, 0, by decide, by decide⟩
    let time : Instant :=
      ⟨⟨2016, 12, 31, by decide, by decide⟩, 86399, 1999999999, by decide, by decide⟩
    let m := outbound ⟨List.replicate 16 255, by decide⟩ "+1\"\\" "\u0000é" "\n\t" "" requested
    let eventId : Uuid := ⟨List.replicate 16 0, by decide⟩
    let after := m.apply time (.ofReport .failed time (some " \n"))
    let e := (m.report time eventId.text .failed time (some " \n")).2
    m.orderTimestamp.IsReadable ∧ time.IsReadable ∧
      (m.report time eventId.text .failed time (some " \n")).1 = after ∧
      e.TellsOf .sendFailed after time ∧
      e.snapshot?.bind Snapshot.failureReason = some "UNKNOWN" := by
  intro requested time m eventId after e
  have horder : m.orderTimestamp.IsReadable := ⟨requested.text, by decide +kernel⟩
  have htime : time.IsReadable := ⟨time.text, by decide +kernel⟩
  obtain ⟨hafter, htells, hreason⟩ :=
    report_tells m time eventId .failed time (some " \n") horder htime
  obtain ⟨shown, hshown, rfl, -⟩ := hreason rfl
  refine ⟨horder, htime, hafter, htells, hshown.trans ?_⟩
  decide

end Message

end SmsGateway
