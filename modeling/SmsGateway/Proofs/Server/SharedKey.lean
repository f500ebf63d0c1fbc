import SmsGateway.Config.Validation
import SmsGateway.Proofs.Delivery.Budget
import SmsGateway.Proofs.Server.Strangers

namespace SmsGateway

open SmsGateway.Http

namespace Http

/-- A byte that the value of a header may hold: a tab, or no control character. -/
def IsFieldByte (b : UInt8) : Prop :=
  0x20 ≤ b ∧ b ≠ 0x7F ∨ b = 0x09

instance : DecidablePred IsFieldByte :=
  fun b => inferInstanceAs (Decidable (0x20 ≤ b ∧ b ≠ 0x7F ∨ b = 0x09))

/-- A text that can be sent as the value of a header. -/
def IsFieldText (text : String) : Prop :=
  ∀ b ∈ Text.bytes text, IsFieldByte b

instance : DecidablePred IsFieldText :=
  fun text => List.decidableBAll IsFieldByte (Text.bytes text)

def IsAscii (text : String) : Prop :=
  ∀ c ∈ text.toList, c.toNat < 128

instance : DecidablePred IsAscii :=
  fun text => List.decidableBAll (fun c : Char => c.toNat < 128) text.toList

theorem IsFieldByte.isVisible {b : UInt8} (h : IsFieldByte b) (hascii : b.toNat < 128) :
    Request.isVisible b = true := by
  rcases h with ⟨hlow, hdelete⟩ | rfl
  · have hne : b.toNat ≠ 0x7F := fun heq => hdelete (UInt8.toNat_inj.mp heq)
    have hhigh : b < (0x7F : UInt8) := by
      rw [UInt8.lt_iff_toNat_lt]
      change b.toNat < 127
      omega
    simp [Request.isVisible, hlow, hhigh]
  · rfl

theorem all_isVisible_iff {text : String} (h : IsFieldText text) :
    (Text.bytes text).all Request.isVisible = true ↔ IsAscii text := by
  constructor
  · intro hvisible c hc
    have htext : Request.headerText (Text.bytes text) = text :=
      Text.bytes_injective (bytes_headerText hvisible)
    rw [← htext, Request.headerText, if_pos hvisible, String.toList_ofList] at hc
    obtain ⟨b, hb, rfl⟩ := List.mem_map.mp hc
    obtain ⟨hsame, hlt⟩ := toNat_ofNat_of_isVisible (List.all_eq_true.mp hvisible b hb)
    rwa [hsame]
  · intro hascii
    rw [List.all_eq_true]
    intro b hb
    apply (h b hb).isVisible
    rw [Text.bytes_eq_map hascii] at hb
    obtain ⟨c, hc, rfl⟩ := List.mem_map.mp hb
    rw [UInt8.toNat_ofNat_of_lt' (Nat.lt_trans (hascii c hc) (by decide))]
    exact hascii c hc

end Http

theorem QueueSettings.key_ne_empty_of_validate {q : QueueSettings} (h : q.validate = .ok ()) :
    q.key ≠ "" := by
  intro hempty
  have hblank : Text.isBlankText q.key = true := by
    rw [hempty]
    rfl
  unfold QueueSettings.validate at h
  split at h
  · simp at h
  · rw [if_pos hblank] at h
    split at h <;> simp at h

namespace Server

variable {α σ : Type} {s : Server α} {r : Request}

/-- The request that says just what a task says. -/
def verbatim (t : DeliveryTask) : Request where
  method := t.method.text
  target := "/v1/events/consume"
  headers := t.headers.map fun h => (h.1, Text.bytes h.2)
  body := t.body

theorem header?_verbatim (e : Envelope) (url key : String) :
    (verbatim (.forEvent e url key)).header? apiKeyHeader = some (Text.bytes key) := by
  have hmem : (apiKeyHeader, key) ∈ (DeliveryTask.forEvent e url key).headers := by
    simp [DeliveryTask.headers_forEvent]
  exact header?_of_table rfl (NameTable.ascending_ofEntries _)
    (fun _ => DeliveryTask.toLower_of_mem_headers e url key) hmem

/-- How a server replies to the push queue, which presents each task by a request. -/
def reply (s : Server α) (env : Surroundings α σ) (present : DeliveryTask → Request)
    (t : DeliveryTask) (w : World σ) : Reply × World σ :=
  let (response, w) := s.handle env (present t) w
  (response.elim .unreachable fun x => .answered x.status x.body, w)

theorem shows_iff_isAscii (hne : s.key ≠ "") (hlegal : IsFieldText s.key)
    (hr : r.header? apiKeyHeader = some (Text.bytes s.key)) : Shows r s.key ↔ IsAscii s.key := by
  rw [← all_isVisible_iff hlegal, Shows, hr]
  constructor
  · rintro ⟨-, value, hvalue, hvisible, -⟩
    rwa [Option.some.inj hvalue]
  · intro hvisible
    exact ⟨hne, _, rfl, hvisible, rfl⟩

theorem run_reply_of_not_shows {env : Surroundings α σ} {present : DeliveryTask → Request}
    {t : DeliveryTask} (hr : IsDelivery (present t)) (hkey : ¬ Shows (present t) s.key)
    (p : RetryPolicy) (w : World σ) :
    ∃ notice, Delivery.run (s.reply env present) p t w = (.dropped, [notice], w) := by
  have hreply : s.reply env present t w =
      (.answered unauthorised.status unauthorised.body, w) := by
    rw [reply, (turnsAway_of_not_shows (.inl hr) hkey).answer]
    rfl
  have hsettles : (s.reply env present t w).1.Settles := by
    rw [hreply]
    change ¬ (500 ≤ 401 ∧ 401 ≤ 599)
    decide
  have hrefused : ¬ (s.reply env present t w).1.Accepts := by
    rw [hreply]
    change ¬ (200 ≤ 401 ∧ 401 ≤ 299)
    decide
  obtain ⟨notice, hrun⟩ := Delivery.attempt_of_settles hsettles
  rw [if_neg hrefused, hreply] at hrun
  exact ⟨notice, hrun⟩

/-- A request with a configured key passes the door of a server with this key exactly if the key is
ASCII. If it is not then every delivery is dropped, and neither log nor listeners get to know. -/
theorem accepted_key_opens_iff_ascii (q : QueueSettings) (haccepted : q.validate = .ok ())
    (e : Envelope) (s : Server α) (hsame : s.key = q.key) (present : DeliveryTask → Request)
    (hlegal : ∀ value ∈
      NameTable.find? (DeliveryTask.forEvent e q.endpoint q.key).headers apiKeyHeader,
        IsFieldText value)
    (hpresent : (present (.forEvent e q.endpoint q.key)).header? apiKeyHeader =
      (NameTable.find? (DeliveryTask.forEvent e q.endpoint q.key).headers apiKeyHeader).map
        Text.bytes) :
    let t := DeliveryTask.forEvent e q.endpoint q.key
    (∀ (σ : Type) (env : Surroundings α σ) (route : Route) (w : World σ),
      s.letIn env route (present t) w =
        if route.isGuarded = true ∧ ¬ IsAscii q.key then
          (some (refusal (.authentication "missing or invalid x-api-key header")), w)
        else if route.allows (present t).method then s.serve env route (present t) w
        else (some (.bare 405), w)) ∧
    (IsDelivery (present t) → ¬ IsAscii q.key →
      ∀ (σ : Type) (env : Surroundings α σ) (p : RetryPolicy) (w : World σ),
        ∃ notice, Delivery.run (s.reply env present) p t w = (.dropped, [notice], w)) := by
  intro t
  rw [DeliveryTask.find?_apiKeyHeader] at hlegal hpresent
  have hne : s.key ≠ "" := by
    rw [hsame]
    exact q.key_ne_empty_of_validate haccepted
  have hsent : IsFieldText s.key := by
    rw [hsame]
    exact hlegal q.key rfl
  have hshown : (present t).header? apiKeyHeader = some (Text.bytes s.key) := by
    rw [hsame]
    exact hpresent
  have hshows : Shows (present t) s.key ↔ IsAscii q.key := by
    rw [← hsame]
    exact shows_iff_isAscii hne hsent hshown
  constructor
  · intro σ env route w
    rw [letIn]
    apply if_congr _ rfl rfl
    rw [Bool.and_eq_true, ← hshows, ← isAuthorised_iff, Bool.not_eq_true', Bool.not_eq_true]
  · intro hr hbeyond σ env p w
    rw [← hshows] at hbeyond
    exact run_reply_of_not_shows hr hbeyond p w

theorem accepted_key_opens_iff_ascii_blank :
    let q : QueueSettings := ⟨"http://localhost:8000/v1/events/consume", "open sesame", 30⟩
    let e := Envelope.create "event-1" "message.phone.sent" "/v1/messages" none
    let t := DeliveryTask.forEvent e q.endpoint q.key
    let s : Server String := ⟨"open sesame", ⟨"", "open sesame", .empty⟩⟩
    q.validate = .ok () ∧ s.key = q.key ∧
      (∀ value ∈ NameTable.find? t.headers apiKeyHeader, IsFieldText value) ∧
      (verbatim t).header? apiKeyHeader =
        (NameTable.find? t.headers apiKeyHeader).map Text.bytes ∧
      ∀ w : World Unit, s.letIn calm .consume (verbatim t) w = s.consume calm (verbatim t) w := by
  intro q e t s
  have haccepted : q.validate = .ok () := by decide +kernel
  have hlegal : ∀ value ∈ NameTable.find? t.headers apiKeyHeader, IsFieldText value := by
    intro value hvalue
    rw [DeliveryTask.find?_apiKeyHeader] at hvalue
    obtain rfl := Option.some.inj hvalue
    decide +kernel
  have hpresent : (verbatim t).header? apiKeyHeader =
      (NameTable.find? t.headers apiKeyHeader).map Text.bytes := by
    rw [DeliveryTask.find?_apiKeyHeader]
    exact header?_verbatim e q.endpoint q.key
  refine ⟨haccepted, rfl, hlegal, hpresent, ?_⟩
  intro w
  obtain ⟨hletIn, -⟩ := accepted_key_opens_iff_ascii q haccepted e s rfl verbatim hlegal hpresent
  have hascii : IsAscii q.key := by decide +kernel
  have hallowed : Route.consume.allows (verbatim t).method = true := rfl
  rw [hletIn, if_neg fun h => h.2 hascii, if_pos hallowed, serve]

/-- A key with an accent is configured, sent as it is, and the key of the server, which would take
it as a text; but the delivery is refused and dropped. -/
theorem accented_key_is_refused :
    let q : QueueSettings := ⟨"http://localhost:8000/v1/events/consume", "clé", 30⟩
    let e := Envelope.create "evt-1" "message.phone.delivered" "/v1/messages" none
    let t := DeliveryTask.forEvent e q.endpoint q.key
    let s : Server String := ⟨q.key, ⟨"", q.key, .empty⟩⟩
    let w : World Unit := ⟨.empty, [], ()⟩
    q.validate = .ok () ∧ e.validate = .ok () ∧
      NameTable.find? t.headers apiKeyHeader = some q.key ∧ IsFieldText q.key ∧
      (verbatim t).header? apiKeyHeader = some (Text.bytes q.key) ∧ s.isValidKey q.key = true ∧
      s.isAuthorised (verbatim t) = false ∧
      ((s.handle calm (verbatim t) w).1.map Response.status) = some 401 ∧
      ∀ p : RetryPolicy, (Delivery.run (s.reply calm verbatim) p t w).1 = .dropped := by
  intro q e t s w
  have hfound : NameTable.find? t.headers apiKeyHeader = some q.key :=
    DeliveryTask.find?_apiKeyHeader e q.endpoint q.key
  have hshown : (verbatim t).header? apiKeyHeader = some (Text.bytes q.key) :=
    header?_verbatim e q.endpoint q.key
  have hdelivery : IsDelivery (verbatim t) := ⟨rfl, by decide⟩
  have hrefused : s.isAuthorised (verbatim t) = false := by
    rw [isAuthorised, hshown]
    decide +kernel
  have hkey : ¬ Shows (verbatim t) s.key := by
    rw [← isAuthorised_iff, hrefused]
    exact Bool.false_ne_true
  refine ⟨by decide +kernel, by decide +kernel, hfound, by decide +kernel, hshown,
    by decide +kernel, hrefused, ?_, ?_⟩
  · rw [(turnsAway_of_not_shows (.inl hdelivery) hkey).answer]
    rfl
  · intro p
    obtain ⟨notice, hrun⟩ : ∃ notice, Delivery.run (s.reply calm verbatim) p t w = (_, [notice], w) :=
      run_reply_of_not_shows hdelivery hkey p w
    rw [hrun]

end Server

end SmsGateway
