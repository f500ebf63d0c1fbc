import SmsGateway.Proofs.Server.EndToEnd

/-!
Who is let in. A caller who does not show the key gets one and the same answer from every server
that has this key, whatever its log holds and whoever listens, and neither log nor listeners are
asked. An event gets to the dispatcher only from a caller with the key, and only if the body is not
signed at all or signed with the key exactly as it was received.
-/

namespace SmsGateway

open SmsGateway.Http

variable {α β σ : Type}

/-- Something that a server does with what is outside of it. -/
inductive Contact (α : Type) where
  | log (call : LogCall)
  | listener (listener : α) (e : Envelope)
  | queue (t : DeliveryTask)

/-- The same surroundings, with a record of every contact. -/
def Surroundings.watched (env : Surroundings α σ) : Surroundings α (σ × List (Contact α)) where
  refuse c o :=
    let (refusal, outside) := env.refuse c o.1
    (refusal, outside, o.2 ++ [.log c])
  name := env.name
  handle listener e log o :=
    let (outcome, outside) := env.handle listener e log o.1
    (outcome, outside, o.2 ++ [.listener listener e])
  enqueue t delay o :=
    let (answer, outside) := env.enqueue t delay o.1
    (answer, outside, o.2 ++ [.queue t])

namespace Server

/-- A request that asks for a recorded event. -/
def IsLookup (r : Request) : Prop :=
  r.method = "GET" ∧ ∃ id, Route.ofPath? r.path = some (.event id)

/-- A request whose first key header can be read and is the key. Nobody can show an empty key. -/
def Shows (r : Request) (key : String) : Prop :=
  key ≠ "" ∧ ∃ value ∈ r.header? apiKeyHeader,
    value.all Request.isVisible = true ∧ value = Text.bytes key

/-- A request that is not signed, or whose first signature is that of the body under a key. -/
def Vouches (r : Request) (key : String) : Prop :=
  ∀ value ∈ r.header? signatureHeader, value = Text.bytes (Signature.sign key r.body)

/-- The contacts that a request leads to. -/
def contacts (s : Server α) (env : Surroundings α σ) (r : Request) (w : World σ) :
    List (Contact α) :=
  (s.handle env.watched r ⟨w.log, w.notices, w.outside, []⟩).2.outside.2

/-- The answer to a request is always the same, and comes without any contact: nothing in the world
is looked at or changed. -/
structure TurnsAway (s : Server α) (r : Request) (response : Response) : Prop where
  answer : ∀ (σ : Type) (env : Surroundings α σ) (w : World σ),
    s.handle env r w = (some response, w)
  idle : ∀ (σ : Type) (env : Surroundings α σ) (w : World σ), s.contacts env r w = []

/-- The answer to a request is what the dispatch of an event comes to. -/
def Dispatches (s : Server α) (r : Request) (e : Envelope) : Prop :=
  ∀ (σ : Type) (env : Surroundings α σ) (w : World σ),
    s.handle env r w =
      ((s.dispatcher.dispatchSync env e w).1.map fun result => shared (afterDispatch e.id result),
        (s.dispatcher.dispatchSync env e w).2)

/-- The event that a delivery brings as far as to the dispatcher. -/
def admitted (s : Server α) (r : Request) : Option Envelope :=
  if s.isAuthorised r then (s.delivered r).toOption else none

/-- The answer to a caller without the key. -/
def unauthorised : Response :=
  shared (refusal (.authentication "missing or invalid x-api-key header"))

variable {s : Server α} {r : Request}

theorem TurnsAway.of_answer {response : Response}
    (h : ∀ (σ : Type) (env : Surroundings α σ) (w : World σ),
      s.handle env r w = (some response, w)) : s.TurnsAway r response := by
  refine ⟨h, ?_⟩
  intro σ env w
  rw [contacts, h]

theorem isAuthorised_iff : s.isAuthorised r = true ↔ Shows r s.key := by
  rw [isAuthorised, isValidKey, Bool.and_eq_true, bne_iff_ne, Signature.equalBytes_eq_true_iff]
  refine and_congr_right ?_
  intro hne
  constructor
  · intro hbytes
    have hkey := (Text.bytes_injective hbytes).symm
    cases hheader : r.header? apiKeyHeader with
    | none =>
        rw [hheader] at hkey
        exact absurd hkey.symm hne
    | some value =>
        rw [hheader] at hkey
        exact ⟨value, rfl, (headerText_eq_iff hne).mp hkey⟩
  · rintro ⟨value, hheader, hvalue⟩
    rw [Option.mem_def.mp hheader, Option.elim_some, (headerText_eq_iff hne).mpr hvalue]

theorem vouches_of_isGenuine (h : s.isGenuine r = true) : Vouches r s.key := by
  intro value hheader
  have hsigned : Signature.sign s.key r.body ≠ "" := by
    intro hempty
    have hlength := congrArg String.length hempty
    rw [Signature.sign, String.length_append] at hlength
    simp [Signature.heading] at hlength
  rw [isGenuine, Option.mem_def.mp hheader] at h
  exact ((headerText_eq_iff hsigned).mp (Signature.verify_eq_true_iff.mp h)).2

theorem isGenuine_of_delivered {e : Envelope} (h : s.delivered r = .ok e) :
    s.isGenuine r = true := by
  unfold delivered at h
  split at h
  · simp at h
  · split at h
    · simp at h
    · next hgenuine => simpa using hgenuine

theorem turnsAway_of_not_shows (hr : IsDelivery r ∨ IsLookup r) (hkey : ¬ Shows r s.key) :
    s.TurnsAway r unauthorised := by
  have hdoor : s.isAuthorised r = false := by
    rw [← isAuthorised_iff] at hkey
    exact Bool.eq_false_iff.mpr hkey
  apply TurnsAway.of_answer
  intro σ env w
  rcases hr with hr | ⟨hmethod, id, hpath⟩
  · rw [handle_of_isDelivery hr, hdoor]
    rfl
  · simp only [handle, hpath, hmethod, letIn, hdoor, Route.isGuarded, finish, Route.allows]
    rfl

theorem shows_of_admitted {e : Envelope} (h : s.admitted r = some e) :
    Shows r s.key ∧ s.delivered r = .ok e := by
  unfold admitted at h
  split at h
  · next hdoor =>
      refine ⟨isAuthorised_iff.mp hdoor, ?_⟩
      cases hdelivered : s.delivered r with
      | ok e' =>
          rw [hdelivered] at h
          rw [Option.some.inj h]
      | error response =>
          rw [hdelivered] at h
          simp [Except.toOption] at h
  · simp at h

theorem dispatches_of_admitted (hr : IsDelivery r) {e : Envelope} (h : s.admitted r = some e) :
    s.Dispatches r e := by
  obtain ⟨hshows, hdelivered⟩ := shows_of_admitted h
  intro σ env w
  rw [handle_of_isDelivery hr, if_pos (isAuthorised_iff.mpr hshows), consume, hdelivered,
    Option.map_map]
  rfl

theorem turnsAway_of_not_admitted (hr : IsDelivery r) (h : s.admitted r = none) :
    ∃ response, s.TurnsAway r response := by
  by_cases hshows : Shows r s.key
  · have hdoor : s.isAuthorised r = true := isAuthorised_iff.mpr hshows
    cases hdelivered : s.delivered r with
    | ok e => simp [admitted, hdoor, hdelivered, Except.toOption] at h
    | error response =>
        refine ⟨shared response, TurnsAway.of_answer ?_⟩
        intro σ env w
        rw [handle_of_isDelivery hr, if_pos hdoor, consume, hdelivered]
        rfl
  · exact ⟨unauthorised, turnsAway_of_not_shows (.inl hr) hshows⟩

theorem admitted_of_carries {e : Envelope} {url : String}
    (hr : Carries r (.forEvent e url s.key)) (hkey : IsHeaderText s.key) (hne : s.key ≠ "")
    (he : IsDeliverable e) (hrules : e.validate = .ok ()) : s.admitted r = some e := by
  rw [admitted, if_pos (isAuthorised_of_carries hr hkey hne), delivered_of_carries hr he hrules]
  rfl

/-- Callers without the key learn nothing: two servers with one key answer them alike, whatever else
sets the servers apart, and nothing else happens. What does get to the dispatcher comes with the key
and is what was signed. -/
theorem strangers_learn_nothing (s : Server α) (s' : Server β) (hsame : s'.key = s.key) :
    (unauthorised.status = 401 ∧ unauthorised.body =
      "\x7b\"error\":\x7b\"code\":\"AUTH_001\",\"message\":\"missing or invalid x-api-key header\"\x7d\x7d") ∧
    (∀ r, IsDelivery r ∨ IsLookup r → ¬ Shows r s.key →
      s.TurnsAway r unauthorised ∧ s'.TurnsAway r unauthorised) ∧
    ∀ r, IsDelivery r →
      (s.admitted r = none → ∃ response, s.TurnsAway r response) ∧
      ∀ e, s.admitted r = some e → s.Dispatches r e ∧ Shows r s.key ∧ Vouches r s.key := by
  refine ⟨⟨rfl, by decide +kernel⟩, ?_, ?_⟩
  · intro r hr hkey
    refine ⟨turnsAway_of_not_shows hr hkey, turnsAway_of_not_shows hr ?_⟩
    rwa [hsame]
  · intro r hr
    refine ⟨turnsAway_of_not_admitted hr, ?_⟩
    intro e he
    obtain ⟨hshows, hdelivered⟩ := shows_of_admitted he
    exact ⟨dispatches_of_admitted hr he, hshows,
      vouches_of_isGenuine (isGenuine_of_delivered hdelivered)⟩

theorem strangers_learn_nothing_half :
    let e := Envelope.create "event-1" "message.phone.sent" "/v1/messages" none
    let t := DeliveryTask.forEvent e "http://localhost/v1/events/consume" "secret"
    let half : Request := ⟨"POST", "/v1/events/consume", [("X-Api-Key", Text.bytes "sec")], []⟩
    let unreadable : Request := ⟨"GET", "/v1/events/event-1", [("x-api-key", [0xC3, 0xA9])], []⟩
    let s : Server String := ⟨"secret", ⟨"", "secret", .empty⟩⟩
    let s' : Server Nat :=
      ⟨"secret", ⟨"", "other", Registry.empty.subscribe "message.phone.sent" 1⟩⟩
    s'.key = s.key ∧ IsDelivery half ∧ ¬ Shows half s.key ∧ IsLookup unreadable ∧
      ¬ Shows unreadable s.key ∧ IsDelivery (post t) ∧ s.admitted (post t) = some e ∧
      s.TurnsAway half unauthorised ∧ s'.TurnsAway half unauthorised ∧
      s.TurnsAway unreadable unauthorised ∧ s'.TurnsAway unreadable unauthorised ∧
      s.Dispatches (post t) e ∧ Shows (post t) s.key ∧ Vouches (post t) s.key := by
  intro e t half unreadable s s'
  have hhalf : IsDelivery half := ⟨rfl, by decide⟩
  have hlookup : IsLookup unreadable := ⟨rfl, "event-1".toList, by decide⟩
  have hwrong : ¬ Shows half s.key := by
    rw [← isAuthorised_iff]
    decide +kernel
  have hblind : ¬ Shows unreadable s.key := by
    rw [← isAuthorised_iff]
    decide +kernel
  have hposted : Carries (post t) t :=
    carries_post rfl (NameTable.ascending_ofEntries _)
      fun _ => DeliveryTask.toLower_of_mem_headers e _ _
  have hadmitted : s.admitted (post t) = some e := by
    refine admitted_of_carries hposted (by decide) (by decide) ?_ (by decide +kernel)
    refine ⟨Envelope.isProper_create _ _ _ _, ?_, ?_, ?_, ?_, by decide +kernel⟩
    all_goals simp [e, Envelope.create, Envelope.IsIntegral, Envelope.values]
  obtain ⟨-, hstrangers, hcallers⟩ := strangers_learn_nothing s s' rfl
  obtain ⟨hturned, hturned'⟩ := hstrangers half (.inl hhalf) hwrong
  obtain ⟨hignored, hignored'⟩ := hstrangers unreadable (.inr hlookup) hblind
  exact ⟨rfl, hhalf, hwrong, hlookup, hblind, hposted.delivery, hadmitted, hturned, hturned',
    hignored, hignored', (hcallers (post t) hposted.delivery).2 e hadmitted⟩

end Server

end SmsGateway
