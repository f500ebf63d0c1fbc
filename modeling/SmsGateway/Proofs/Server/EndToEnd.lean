import SmsGateway.Proofs.Delivery.Task
import SmsGateway.Proofs.Dispatch.Healthy
import SmsGateway.Proofs.Event.Lossless
import SmsGateway.Proofs.Server.Delivery

namespace SmsGateway

open SmsGateway.Http

variable {α β σ τ : Type}

namespace Server

/-- A task as it is received: its body and its headers have arrived, whatever else the request may
hold. -/
structure Carries (r : Request) (t : DeliveryTask) : Prop where
  delivery : IsDelivery r
  body : r.body = t.body
  headers : ∀ h ∈ t.headers, r.header? h.1 = some (arrived h.2)

def post (t : DeliveryTask) : Request where
  method := t.method.text
  target := "/v1/events/consume"
  headers := t.headers.map fun h => (h.1, arrived h.2)
  body := t.body

/-- What an event is like whose wire form the consumer can take. -/
structure IsDeliverable (e : Envelope) : Prop where
  proper : e.IsProper
  integral : e.IsIntegral
  data_ne_null : e.data ≠ some .null
  depth : ∀ v ∈ e.values, v.depth ≤ Envelope.maxValueDepth
  time : ∀ t ∈ e.time, t.IsReadable
  size : e.wireBytes.length ≤ maxBody

theorem IsDeliverable.isReadable {e : Envelope} (h : IsDeliverable e)
    (hrules : e.validate = .ok ()) : e.IsReadable :=
  ⟨Envelope.not_mem_coreNames_of_validate hrules, h.data_ne_null, h.depth, h.time⟩

theorem header?_of_table {r : Request} {t : NameTable String} {f : String → List UInt8}
    (hr : r.headers = t.map fun h => (h.1, f h.2)) (hascending : NameTable.Ascending t)
    (hlower : ∀ h ∈ t, h.1.toLower = h.1) {h : String × String} (hh : h ∈ t) :
    r.header? h.1 = some (f h.2) := by
  have hnames : ∀ h ∈ r.headers, h.1.toLower = h.1 := by
    rw [hr]
    intro h hh
    obtain ⟨x, hx, rfl⟩ := List.mem_map.mp hh
    exact hlower x hx
  have hdistinct : r.headers.Pairwise fun a b => a.1 ≠ b.1 := by
    rw [hr]
    apply List.pairwise_map.mpr
    refine hascending.imp ?_
    rintro a b hlt heq
    exact absurd hlt (heq ▸ String.lt_irrefl a.1)
  have hmem : (h.1, f h.2) ∈ r.headers := by
    rw [hr]
    exact List.mem_map.mpr ⟨h, hh, rfl⟩
  exact header?_of_mem hnames hdistinct hmem

theorem carries_post {t : DeliveryTask} (hmethod : t.method = .post)
    (hascending : NameTable.Ascending t.headers)
    (hlower : ∀ h ∈ t.headers, h.1.toLower = h.1) : Carries (post t) t := by
  have hpath : Route.ofPath? ("/v1/events/consume".toList.takeWhile (· != '?')) = some .consume := by
    decide
  refine ⟨⟨?_, hpath⟩, rfl, ?_⟩
  · rw [post, hmethod]
    rfl
  · intro h hh
    exact header?_of_table rfl hascending hlower hh

theorem eq_forEvent_of_queued {d : Dispatcher β} {queue : Surroundings β τ} {e : Envelope}
    {delay : Time.Span} {w : World τ} {t : DeliveryTask}
    (h : .queued t ∈ (d.dispatchAfter queue.observed e delay (w.observed [])).2.outside.2) :
    e.validate = .ok () ∧ t = .forEvent e d.endpoint d.key := by
  rw [Dispatcher.dispatchAfter_observed] at h
  change OutsideCall.queued t ∈ d.handOver e at h
  rw [Dispatcher.handOver] at h
  split at h
  · next hrules =>
      obtain rfl := OutsideCall.queued.inj (List.mem_singleton.mp h)
      exact ⟨hrules, rfl⟩
  · simp at h

/-- What the first delivery of an event comes to. -/
structure Processed (s : Server α) (env : Surroundings α σ) (e : Envelope) (r : Request)
    (w : World σ) : Prop where
  response : (s.handle env r w).1 = some (shared (acknowledgement "processed" e.id))
  /-- Each listener is called once, and with the event. -/
  calls : (s.calls env r w).Perm ((s.dispatcher.registry.listeners e.type).map (.told · e))
  loaded : ((s.handle env r w).2.load env e.id).1 = .ok (some e)
  published : ((s.handle env r w).2.isPublished env e.id).1 = .ok true

/-- What every further delivery comes to. -/
structure Repeated (s : Server α) (env : Surroundings α σ) (e : Envelope) (r : Request)
    (w : World σ) : Prop where
  response : (s.handle env r w).1 = some (shared (acknowledgement "duplicate" e.id))
  calls : s.calls env r w = []
  log : (s.handle env r w).2.log = w.log

section Received

variable {s : Server α} {env : Surroundings α σ} {e : Envelope} {r : Request} {url : String}
  (hr : Carries r (.forEvent e url s.key))
include hr

theorem isAuthorised_of_carries (hkey : IsHeaderText s.key) (hne : s.key ≠ "") :
    s.isAuthorised r = true := by
  have hheader : r.header? apiKeyHeader = some (arrived s.key) := by
    apply hr.headers (apiKeyHeader, s.key)
    simp [DeliveryTask.headers_forEvent]
  rw [isAuthorised, hheader, Option.elim_some, headerText_arrived hkey, isValidKey,
    Signature.equalBytes_self]
  simp [hne]

theorem isGenuine_of_carries : s.isGenuine r = true := by
  have hheader : r.header? signatureHeader =
      some (arrived (Signature.sign s.key e.wireBytes)) := by
    apply hr.headers (signatureHeader, Signature.sign s.key e.wireBytes)
    simp [DeliveryTask.headers_forEvent]
  have hbody : r.body = e.wireBytes := hr.body.trans (DeliveryTask.body_forEvent e url s.key)
  rw [isGenuine, hheader, hbody]
  simp only
  rw [headerText_arrived (Signature.isHeaderText_sign _ _), Signature.verify_sign]

theorem delivered_of_carries (he : IsDeliverable e) (hrules : e.validate = .ok ()) :
    s.delivered r = .ok e := by
  have hbody : r.body = e.wireBytes := hr.body.trans (DeliveryTask.body_forEvent e url s.key)
  rw [delivered, isGenuine_of_carries hr, hbody, if_neg (Nat.not_lt.mpr he.size),
    Envelope.ofBytes_wireBytes he.proper (he.isReadable hrules) he.integral]
  rfl

variable (hkey : IsHeaderText s.key) (hne : s.key ≠ "") (he : IsDeliverable e)
  (hrules : e.validate = .ok ())
include hkey hne he hrules

theorem handle_of_carries (w : World σ) :
    s.handle env r w =
      ((s.dispatcher.dispatchSync env e w).1.map fun result => shared (afterDispatch e.id result),
        (s.dispatcher.dispatchSync env e w).2) := by
  rw [handle_of_isDelivery hr.delivery, if_pos (isAuthorised_of_carries hr hkey hne), consume,
    delivered_of_carries hr he hrules, Option.map_map]
  rfl

theorem calls_of_carries (w : World σ) :
    s.calls env r w = s.dispatcher.calls env e w := by
  rw [calls, handle_of_carries hr hkey hne he hrules]
  rfl

variable (hhealthy : env.IsHealthy) {w : World σ}
include hhealthy

theorem processed_of_carries (hcomplete : env.CompletesAll s.dispatcher.registry e)
    (hnew : w.log.find? e.id = none) : Processed s env e r w := by
  obtain ⟨hresult, hfan, hrow⟩ :=
    Dispatcher.dispatchSync_of_new (d := s.dispatcher) hhealthy hcomplete hrules hnew
  have hhandle : s.handle env r w = _ := handle_of_carries hr hkey hne he hrules w
  refine ⟨?_, ?_, ?_, ?_⟩
  · rw [hhandle, hresult]
    rfl
  · rw [calls_of_carries hr hkey hne he hrules, Dispatcher.calls_eq_turns]
    exact hfan.told_once
  · rw [hhandle, World.load_of_isHealthy hhealthy, EventLog.load, hrow]
    change (Envelope.ofWire e.wire).map some = .ok (some e)
    rw [Envelope.ofWire_wire he.proper (he.isReadable hrules) he.integral]
    rfl
  · rw [hhandle, World.isPublished_of_isHealthy hhealthy, EventLog.isPublished, hrow]
    rfl

theorem repeated_of_carries (hpublished : w.log.isPublished e.id = true) :
    Repeated s env e r w := by
  obtain ⟨hresult, hlog, hidle⟩ :=
    Dispatcher.dispatchSync_of_published (d := s.dispatcher) hhealthy hrules hpublished
  have hhandle : s.handle env r w = _ := handle_of_carries hr hkey hne he hrules w
  refine ⟨?_, ?_, ?_⟩
  · rw [hhandle, hresult]
    rfl
  · rw [calls_of_carries hr hkey hne he hrules]
    exact hidle
  · rw [hhandle]
    exact hlog

omit hr in
theorem log_serveAll_of_carries (hpublished : w.log.isPublished e.id = true)
    {later : List Request} (hlater : ∀ r ∈ later, Carries r (.forEvent e url s.key)) :
    (s.serveAll env later w).log = w.log := by
  induction later generalizing w with
  | nil => rfl
  | cons r later ih =>
      obtain ⟨hfirst, hrest⟩ := List.forall_mem_cons.mp hlater
      have hlog := (repeated_of_carries hfirst hkey hne he hrules hhealthy hpublished).log
      change (s.serveAll env later (s.handle env r w).2).log = w.log
      rw [ih (by rwa [hlog]) hrest, hlog]

end Received

/-- An event that a dispatcher hands to the push queue is processed when its task is posted to a
server with the same key, and recognised however often the task is posted again. -/
theorem delivered_end_to_end (d : Dispatcher β) (queue : Surroundings β τ) (s : Server α)
    (env : Surroundings α σ) (e : Envelope) (he : IsDeliverable e) (hkey : IsHeaderText d.key)
    (hne : d.key ≠ "") (hsame : s.key = d.key) (delay : Time.Span) (sender : World τ)
    (t : DeliveryTask)
    (htask : .queued t ∈ (d.dispatchAfter queue.observed e delay (sender.observed [])).2.outside.2)
    (hhealthy : env.IsHealthy) (hcomplete : env.CompletesAll s.dispatcher.registry e)
    (w : World σ) (hnew : w.log.find? e.id = none) (r : Request) (hr : Carries r t) :
    Processed s env e r w ∧
      ∀ later : List Request, (∀ r' ∈ later, Carries r' t) →
        (s.serveAll env later (s.handle env r w).2).log = (s.handle env r w).2.log ∧
          ∀ r', Carries r' t →
            Repeated s env e r' (s.serveAll env later (s.handle env r w).2) := by
  obtain ⟨hrules, rfl⟩ := eq_forEvent_of_queued htask
  rw [← hsame] at hkey hne hr ⊢
  have hprocessed := processed_of_carries hr hkey hne he hrules hhealthy hcomplete hnew
  have hpublished : (s.handle env r w).2.log.isPublished e.id = true := by
    have hanswer := hprocessed.published
    rw [World.isPublished_of_isHealthy hhealthy] at hanswer
    exact Except.ok.inj hanswer
  refine ⟨hprocessed, ?_⟩
  intro later hlater
  have hlog : (s.serveAll env later (s.handle env r w).2).log = (s.handle env r w).2.log :=
    log_serveAll_of_carries hkey hne he hrules hhealthy hpublished hlater
  refine ⟨hlog, ?_⟩
  intro r' hr'
  exact repeated_of_carries hr' hkey hne he hrules hhealthy (by rwa [hlog])

theorem delivered_end_to_end_thrice :
    let e := ((Envelope.create "event-1" "message.phone.sent" "/v1/messages" none).withData
      (.obj [("text", .str "hello")])).withExtension "attempt" (.int 1)
    let d : Dispatcher String := ⟨"http://localhost/v1/events/consume", "open sesame", .empty⟩
    let s : Server String :=
      ⟨"open sesame", d.subscribe "message.phone.sent" "webhook"⟩
    let w : World Unit := ⟨.empty, [], ()⟩
    let t := DeliveryTask.forEvent e d.endpoint d.key
    IsDeliverable e ∧ IsHeaderText d.key ∧ d.key ≠ "" ∧ s.key = d.key ∧
      .queued t ∈ (d.dispatchAfter calm.observed e Dispatcher.immediate (w.observed [])).2.outside.2 ∧
      calm.IsHealthy ∧ calm.CompletesAll s.dispatcher.registry e ∧ w.log.find? e.id = none ∧
      Carries (post t) t ∧ Processed s calm e (post t) w ∧
      Repeated s calm e (post t) (s.serveAll calm [post t] (s.handle calm (post t) w).2) := by
  intro e d s w t
  have he : IsDeliverable e := by
    refine ⟨?_, ?_, by simp [e, Envelope.withData, Envelope.withExtension], by decide, ?_, ?_⟩
    · refine ((Envelope.isProper_create _ _ _ _).withData ?_).withExtension "attempt" ?_
      · simp [Json.Canonical, Json.CanonicalFields, NameTable.Ascending]
      · simp [Json.Canonical, Json.Number.InRange, Json.int]
    · refine List.forall_mem_cons.mpr ⟨.obj ?_, List.forall_mem_singleton.mpr (.int ?_)⟩
      · exact List.forall_mem_singleton.mpr (.str _)
      · exact ⟨by decide, by decide⟩
    · intro t ht
      simp [e, Envelope.withData, Envelope.withExtension, Envelope.create] at ht
    · decide +kernel
  have hkey : IsHeaderText d.key := by decide
  have htask : .queued t ∈
      (d.dispatchAfter calm.observed e Dispatcher.immediate (w.observed [])).2.outside.2 := by
    have hrules : e.validate = .ok () := by decide +kernel
    rw [Dispatcher.dispatchAfter_observed]
    change OutsideCall.queued t ∈ d.handOver e
    rw [Dispatcher.handOver, hrules]
    exact List.mem_singleton.mpr rfl
  have hcomplete : calm.CompletesAll s.dispatcher.registry e := calm_completesAll _ e
  have hr : Carries (post t) t :=
    carries_post rfl (NameTable.ascending_ofEntries _)
      fun _ => DeliveryTask.toLower_of_mem_headers e d.endpoint d.key
  obtain ⟨hprocessed, hlater⟩ := delivered_end_to_end d calm s calm e he hkey (by decide) rfl
    Dispatcher.immediate w t htask calm_isHealthy hcomplete w rfl (post t) hr
  refine ⟨he, hkey, by decide, rfl, htask, calm_isHealthy, hcomplete, rfl, hr, hprocessed, ?_⟩
  exact (hlater [post t] (List.forall_mem_singleton.mpr hr)).2 (post t) hr

end Server

end SmsGateway
