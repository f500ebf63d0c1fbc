import SmsGateway.Proofs.Dispatch.Healthy
import SmsGateway.Proofs.Dispatch.Moves
import SmsGateway.Proofs.Event.Lossless
import SmsGateway.Proofs.Server.Delivery
import SmsGateway.Proofs.Text.Percent

namespace SmsGateway

open SmsGateway.Http

variable {α σ : Type}

/-- The only row that a log may hold under the id of an event is the row of that event. -/
def EventLog.HoldsAtMost (log : EventLog) (e : Envelope) : Prop :=
  ∀ row, log.find? e.id = some row → ∃ published, row = { LogRow.ofEnvelope e with published }

namespace Stage

variable {env : Surroundings α σ} {registry : Registry α} {e : Envelope} {s s' : Stage α}
  {log log' : EventLog}

theorem Step.holdsAtMost {d : Option (Deed α)} (h : Step env registry e s log d s' log')
    (hlog : log.HoldsAtMost e) : log'.HoldsAtMost e := by
  cases h with
  | create hcreate =>
      intro row hrow
      rw [EventLog.find?_create hcreate, if_pos rfl] at hrow
      exact ⟨false, (Option.some.inj hrow).symm⟩
  | mark hmark =>
      intro row hrow
      rw [EventLog.find?_markPublished hmark, if_pos rfl] at hrow
      obtain ⟨found, hfound, rfl⟩ := Option.map_eq_some_iff.mp hrow
      obtain ⟨published, rfl⟩ := hlog found hfound
      exact ⟨true, rfl⟩
  | _ => exact hlog

theorem holdsAtMost_run (n : Nat) (s : Stage α) (w : World σ) (hlog : w.log.HoldsAtMost e) :
    (run env registry e n s w).2.log.HoldsAtMost e := by
  induction n generalizing s w with
  | zero => exact hlog
  | succ n ih => exact ih _ _ ((step_advance s w).holdsAtMost hlog)

theorem Step.isSome_find?_of_succeeded {d : Option (Deed α)}
    (h : Step env registry e s log d s' log') (hs : s ≠ .ended (.ok ()))
    (hs' : s' = .ended (.ok ())) : (log'.find? e.id).isSome := by
  cases h with
  | refuseCreate hrefuse => split at hs' <;> simp at hs'
  | mark hmark =>
      obtain ⟨row, hrow⟩ :=
        Option.isSome_iff_exists.mp (EventLog.markPublished_eq_ok_iff.mp hmark).1
      rw [EventLog.find?_markPublished hmark, if_pos rfl, hrow]
      rfl
  | rest => exact absurd hs' hs
  | _ => simp at hs'

theorem isSome_find?_of_succeeded {n : Nat} {s : Stage α} {w : World σ} (hs : s ≠ .ended (.ok ()))
    (hrun : (run env registry e n s w).1 = .ended (.ok ())) :
    ((run env registry e n s w).2.log.find? e.id).isSome := by
  induction n generalizing s w with
  | zero => exact absurd hrun hs
  | succ n ih =>
      have hstep : Step env registry e s w.log (s.deed? env e w) _ _ := step_advance s w
      by_cases hnext : (s.advance env registry e w).1 = .ended (.ok ())
      · rw [run_succ, hnext, run_ended]
        exact hstep.isSome_find?_of_succeeded hs hnext
      · exact ih hnext hrun

end Stage

theorem Dispatcher.find?_of_succeeded {d : Dispatcher α} {env : Surroundings α σ} {e : Envelope}
    {w : World σ} (hnew : w.log.find? e.id = none)
    (hok : (d.dispatchSync env e w).1 = some (.ok ())) :
    ∃ published, (d.dispatchSync env e w).2.log.find? e.id =
      some { LogRow.ofEnvelope e with published } := by
  have hempty : w.log.HoldsAtMost e := by
    intro row hrow
    rw [hnew] at hrow
    simp at hrow
  rw [dispatchSync_eq] at hok ⊢
  have hended := Stage.result?_eq_some_iff.mp hok
  obtain ⟨row, hrow⟩ := Option.isSome_iff_exists.mp
    (Stage.isSome_find?_of_succeeded (by simp) hended)
  obtain ⟨published, rfl⟩ := Stage.holdsAtMost_run _ _ _ hempty row hrow
  exact ⟨published, hrow⟩

namespace Server

variable {s : Server α} {env : Surroundings α σ} {r : Request} {w w' : World σ} {e : Envelope}

/-- What may happen to the world of a server between two requests: other requests, one after the
other, and dispatches that overlap, of which some may have begun before and may go on afterwards. -/
inductive Interlude (s : Server α) (env : Surroundings α σ) : World σ → World σ → Prop where
  | nothing {w : World σ} : Interlude s env w w
  | request {w w' : World σ} (r : Request) (h : Interlude s env w w') :
      Interlude s env w (s.handle env r w').2
  | moves {w w' : World σ} (calls : List (DispatchCall α)) (moves : List Move)
      (h : Interlude s env w w') :
      Interlude s env w ((Dispatches.mk calls w').run env s.dispatcher.registry moves).world

theorem Interlude.growsInto (h : Interlude s env w w') : w.log.GrowsInto w'.log := by
  induction h with
  | nothing => exact EventLog.growsInto_refl _
  | request r _ ih => exact ih.trans (growsInto_handle r _)
  | moves calls moves _ ih => exact ih.trans (Dispatches.growsInto_run ⟨calls, _⟩ moves)

/-- A request for the event with an id, which stands in the path with escapes. -/
def AsksFor (r : Request) (id : String) : Prop :=
  r.method = "GET" ∧ ∃ cs, Text.PercentEncoded (Text.bytes id) cs ∧ r.path = Route.eventsPath ++ cs

/-- The id that is the word of another route, so that a lookup has to escape one of its letters. -/
def hiddenId : String := "consume"

theorem ofPath?_append (cs : List Char) :
    Route.ofPath? (Route.eventsPath ++ cs) =
      if cs = hiddenId.toList then some .consume
      else if cs = [] ∨ '/' ∈ cs then none
      else some (.event cs) := by
  have hhealth : Route.eventsPath ++ cs ≠ "/health".toList := by
    intro h
    have hstart : Route.eventsPath.take 2 = "/health".toList.take 2 := by
      rw [← h, List.take_append_of_le_length (by decide)]
    exact absurd hstart (by decide)
  rw [Route.ofPath?, if_neg hhealth,
    if_pos (List.isPrefixOf_iff_prefix.mpr (List.prefix_append _ _)), List.drop_left]
  rfl

theorem ofPath?_of_percentEncoded {id : String} {cs : List Char}
    (h : Text.PercentEncoded (Text.bytes id) cs) (hne : id ≠ "") :
    Route.ofPath? (Route.eventsPath ++ cs) =
      some (if id = hiddenId then .consume else .event cs) := by
  have hunreserved : ∀ c ∈ hiddenId.toList, Text.isUnreserved c = true :=
    List.all_eq_true.mp (by decide)
  have hbytes : Text.bytes hiddenId = hiddenId.toList.map fun c => UInt8.ofNat c.toNat :=
    Text.bytes_eq_map fun c hc => Text.lt_of_isUnreserved (hunreserved c hc)
  have hhidden : cs = hiddenId.toList ↔ id = hiddenId := by
    constructor
    · rintro rfl
      have hdecoded := h.percentDecode_bytes
      rw [String.ofList_toList] at hdecoded
      exact (Text.bytes_injective (Eq.trans (by decide) hdecoded)).symm
    · rintro rfl
      exact h.eq_of_isUnreserved hbytes hunreserved
  have hnil : cs ≠ [] := by
    rintro rfl
    exact hne (Text.bytes_injective h.percentDecode_bytes.symm)
  have hslash : '/' ∉ cs := fun hmem => (h.forall_mem _ hmem).2.1 rfl
  rw [ofPath?_append]
  by_cases hid : id = hiddenId
  · rw [if_pos (hhidden.mpr hid), if_pos hid]
  · rw [if_neg (hid ∘ hhidden.mp), if_neg (by simp [hnil, hslash]), if_neg hid]

theorem decodedId?_of_percentEncoded {id : String} {cs : List Char}
    (h : Text.PercentEncoded (Text.bytes id) cs) : Route.decodedId? cs = some id := by
  rw [Route.decodedId?, h.percentDecode_bytes, Text.ofBytes?_bytes]

theorem word_of_acknowledgement {word word' id id' : String}
    (h : (acknowledgement word id).body = (acknowledgement word' id').body) : word = word' := by
  let v (word id : String) : Json := .obj [("status", .str word), ("event_id", .str id)]
  have hchars : (v word id).chars = (v word' id').chars :=
    String.ofList_injective h
  have hread (word id : String) :
      Json.Document.parse 1 (v word id).chars = some (.ofJson (v word id)) := by
    refine Json.parse_chars (.obj ?_) (Nat.le_refl 1)
    simp [Json.Integral.str]
  have hsame := hread word id
  rw [hchars, hread] at hsame
  have hboth : word = word' ∧ id = id' := by
    simpa [v, Json.Document.ofJson, Json.ofFields] using hsame.symm
  exact hboth.1

theorem dispatchSync_of_processed (hr : IsDelivery r) (hread : Envelope.ofBytes r.body = .ok e)
    (hprocessed : (s.handle env r w).1 = some (shared (acknowledgement "processed" e.id))) :
    (s.dispatcher.dispatchSync env e w).1 = some (.ok ()) ∧
      (s.handle env r w).2 = (s.dispatcher.dispatchSync env e w).2 := by
  have hhandled : Handled s env r w (s.handle env r w) (s.trace env r w) (s.calls env r w) :=
    handled_of_isDelivery hr
  generalize s.handle env r w = answer, s.trace env r w = trace, s.calls env r w = calls
    at hprocessed hhandled
  cases hhandled with
  | turnedAway hstatus =>
      obtain rfl := Option.some.inj hprocessed
      have hsuccess : isClientError 200 = true := hstatus
      exact absurd hsuccess (by decide)
  | @dispatched e' hread' =>
      obtain rfl : e = e' := Except.ok.inj (hread.symm.trans hread')
      refine ⟨?_, rfl⟩
      obtain ⟨result, hresult, hanswer⟩ := Option.map_eq_some_iff.mp hprocessed
      cases result with
      | ok u => exact hresult
      | error f =>
          rw [afterDispatch] at hanswer
          split at hanswer
          · have hbody := congrArg Response.body hanswer
            change (acknowledgement "duplicate" e.id).body =
              (acknowledgement "processed" e.id).body at hbody
            exact absurd (word_of_acknowledgement hbody) (by decide)
          · have hstatus : ErrorReport.statusOf f.family = 200 := congrArg Response.status hanswer
            cases hfamily : f.family <;> rw [hfamily] at hstatus <;>
              exact absurd hstatus (by decide)

/-- A lookup of the hidden id is taken for a delivery, and refused for its method. -/
theorem handle_of_asksFor_hidden (hasks : AsksFor r hiddenId) (hkey : s.isAuthorised r = true) :
    s.handle env r w = (some (shared { Response.bare 405 with allow := some "POST" }), w) := by
  obtain ⟨hmethod, cs, hencoded, hpath⟩ := hasks
  have hroute : Route.ofPath? r.path = some .consume := by
    rw [hpath, ofPath?_of_percentEncoded hencoded (by decide), if_pos rfl]
  simp only [handle, hroute, hmethod, letIn, hkey, Route.isGuarded, Route.allows, finish]
  rfl

theorem handle_of_asksFor {id : String} (hasks : AsksFor r id) (hne : id ≠ "")
    (hhidden : id ≠ hiddenId) (hkey : s.isAuthorised r = true) :
    ∃ cs, Route.decodedId? cs = some id ∧
      s.handle env r w = (some (shared (showEvent env cs w).1), (showEvent env cs w).2) := by
  obtain ⟨hmethod, cs, hencoded, hpath⟩ := hasks
  have hroute : Route.ofPath? r.path = some (.event cs) := by
    rw [hpath, ofPath?_of_percentEncoded hencoded hne, if_neg hhidden]
  refine ⟨cs, decodedId?_of_percentEncoded hencoded, ?_⟩
  simp only [handle, hroute, hmethod, letIn, hkey, Route.isGuarded, Route.allows, serve, finish]
  rfl

theorem showEvent_of_found {id : String} {cs : List Char} {row : LogRow}
    (hid : Route.decodedId? cs = some id) (hadmitted : w.refusal? env .load = none)
    (hfound : w.log.find? id = some row) (hread : Envelope.ofWire row.envelope = .ok e) :
    (showEvent env cs w).1 = .json 200 e.wire := by
  have hload : w.load env id = (.ok (some e), w.asked env .load) := by
    rw [World.load, World.call_of_admitted (Prod.ext hadmitted rfl), EventLog.load]
    dsimp only
    rw [hfound]
    dsimp only
    rw [hread]
    rfl
  rw [showEvent, hid]
  dsimp only
  rw [hload]

theorem id_ne_of_validate (h : e.validate = .ok ()) : e.id ≠ "" := by
  intro hid
  have hblank : Text.isBlankText e.id = true := by
    rw [hid]
    rfl
  unfold Envelope.validate at h
  rw [if_pos hblank] at h
  split at h <;> simp at h

/-- Every event that was accepted is shown to whoever asks for it, unless its id is the hidden one:
then the lookup is refused. -/
theorem accepted_is_shown_iff (hr : IsDelivery r) (hread : Envelope.ofBytes r.body = .ok e)
    (hintegral : e.IsIntegral) (hnew : w.log.find? e.id = none)
    (hprocessed : (s.handle env r w).1 = some (shared (acknowledgement "processed" e.id)))
    (hbetween : Interlude s env (s.handle env r w).2 w') {lookup : Request}
    (hasks : AsksFor lookup e.id) (hkey : s.isAuthorised lookup = true)
    (hadmitted : w'.refusal? env .load = none) :
    ((s.handle env lookup w').1 = some (shared (.json 200 e.wire)) ↔ e.id ≠ hiddenId) ∧
      (e.id = hiddenId → (s.handle env lookup w').1 =
        some (shared { Response.bare 405 with allow := some "POST" })) := by
  obtain ⟨hok, hworld⟩ := dispatchSync_of_processed hr hread hprocessed
  rw [hworld] at hbetween
  obtain ⟨published, hrow⟩ := Dispatcher.find?_of_succeeded hnew hok
  obtain ⟨published', hkept, -⟩ := hbetween.growsInto _ _ hrow
  have hreceived : e.IsReceived := ⟨⟨_, hread⟩, hintegral⟩
  have hhidden (hid : e.id = hiddenId) : (s.handle env lookup w').1 =
      some (shared { Response.bare 405 with allow := some "POST" }) := by
    rw [hid] at hasks
    rw [handle_of_asksFor_hidden hasks hkey]
  refine ⟨⟨?_, ?_⟩, hhidden⟩
  · intro hshown hid
    rw [hhidden hid] at hshown
    have hstatus := congrArg (Option.map Response.status) hshown
    simp [shared, Response.bare, Response.json] at hstatus
  · intro hid
    have hne : e.id ≠ "" := by
      cases hrules : e.validate with
      | ok u => exact id_ne_of_validate hrules
      | error f =>
          rw [(Dispatcher.dispatchSync_of_broken hrules).1] at hok
          simp at hok
    obtain ⟨cs, hdecoded, hanswer⟩ := handle_of_asksFor hasks hne hid hkey
    rw [hanswer, showEvent_of_found hdecoded hadmitted hkept hreceived.ofWire_wire]

theorem accepted_is_shown_iff_escaped :
    let e := Envelope.create "50%/é?" "message.phone.sent" "/v1/messages" none
    let other := Envelope.create "event-1" "message.phone.sent" "/v1/messages" none
    let r : Request :=
      ⟨"POST", "/v1/events/consume", [("X-Api-Key", Text.bytes "secret")], e.wireBytes⟩
    let lookup : Request :=
      ⟨"GET", "/v1/events/50%25%2f%c3%a9%3f", [("X-Api-Key", Text.bytes "secret")], []⟩
    let s : Server String :=
      ⟨"secret", "", "secret", Registry.empty.subscribe "message.phone.sent" "webhook"⟩
    let w : World Unit := ⟨.empty, [], ()⟩
    let w' := (Dispatches.run calm s.dispatcher.registry ⟨[], (s.serveAll calm [r, r] w)⟩
      [.submit other, .advance 0, .advance 0]).world
    IsDelivery r ∧ Envelope.ofBytes r.body = .ok e ∧ e.IsIntegral ∧ w.log.find? e.id = none ∧
      (s.handle calm r w).1 = some (shared (acknowledgement "processed" e.id)) ∧
      Interlude s calm (s.handle calm r w).2 w' ∧ AsksFor lookup e.id ∧
      s.isAuthorised lookup = true ∧ w'.refusal? calm .load = none ∧
      (s.handle calm lookup w').1 = some (shared (.json 200 e.wire)) := by
  intro e other r lookup s w w'
  have hr : IsDelivery r := ⟨rfl, by decide⟩
  have hread : Envelope.ofBytes r.body = .ok e := by
    dsimp only [r]
    exact Envelope.ofBytes_wireBytes_create _ _ _
  have hintegral : e.IsIntegral := Envelope.isIntegral_create _ _ _
  have hprocessed : (s.handle calm r w).1 = some (shared (acknowledgement "processed" e.id)) := by
    decide +kernel
  have hbetween : Interlude s calm (s.handle calm r w).2 w' :=
    .moves [] [.submit other, .advance 0, .advance 0] (.request r .nothing)
  have hasks : AsksFor lookup e.id :=
    ⟨rfl, Text.percentEncode (Text.bytes e.id), Text.percentEncoded_percentEncode _,
      by decide +kernel⟩
  have hkey : s.isAuthorised lookup = true := by decide +kernel
  obtain ⟨hshown, -⟩ :=
    accepted_is_shown_iff hr hread hintegral rfl hprocessed hbetween hasks hkey rfl
  exact ⟨hr, hread, hintegral, rfl, hprocessed, hbetween, hasks, hkey, rfl,
    hshown.mpr (by decide)⟩

/-- An event with the hidden id keeps the rules and is accepted, and cannot be looked up. -/
theorem hidden_event_is_not_shown :
    let e := Envelope.create hiddenId "message.phone.sent" "/v1/messages" none
    let r : Request :=
      ⟨"POST", "/v1/events/consume", [("X-Api-Key", Text.bytes "secret")], e.wireBytes⟩
    let lookup : Request :=
      ⟨"GET", "/v1/events/consume", [("X-Api-Key", Text.bytes "secret")], []⟩
    let s : Server String :=
      ⟨"secret", "", "secret", Registry.empty.subscribe "message.phone.sent" "webhook"⟩
    let w : World Unit := ⟨.empty, [], ()⟩
    IsDelivery r ∧ Envelope.ofBytes r.body = .ok e ∧ e.IsIntegral ∧ e.validate = .ok () ∧
      w.log.find? e.id = none ∧
      (s.handle calm r w).1 = some (shared (acknowledgement "processed" e.id)) ∧
      AsksFor lookup e.id ∧ s.isAuthorised lookup = true ∧ calm.IsHealthy ∧
      (s.handle calm lookup (s.handle calm r w).2).1 ≠ some (shared (.json 200 e.wire)) := by
  intro e r lookup s w
  have hasks : AsksFor lookup e.id :=
    ⟨rfl, Text.percentEncode (Text.bytes e.id), Text.percentEncoded_percentEncode _,
      by decide +kernel⟩
  have hread : Envelope.ofBytes r.body = .ok e := by
    dsimp only [r]
    exact Envelope.ofBytes_wireBytes_create _ _ _
  have hintegral : e.IsIntegral := Envelope.isIntegral_create _ _ _
  exact ⟨⟨rfl, by decide⟩, hread, hintegral, by decide +kernel, rfl, by decide +kernel, hasks,
    by decide +kernel, calm_isHealthy, by decide +kernel⟩

end Server

end SmsGateway
