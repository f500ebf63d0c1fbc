import SmsGateway.Proofs.Dispatch.Healthy
import SmsGateway.Proofs.Dispatch.Observed
import SmsGateway.Proofs.Event.Rules
import SmsGateway.Proofs.Event.WireForm
import SmsGateway.Proofs.Json.Depth

namespace SmsGateway

variable {α σ : Type}

namespace Envelope

/-- What keeps an envelope from getting lost on its way through a text. -/
structure IsLegible (e : Envelope) : Prop where
  data_ne_null : e.data ≠ some .null
  shallow : e.IsShallow

/-- What comes of reading an envelope where it was written: the envelope itself, or the envelope
without its null data, or a failure. -/
structure ComesBack {β : Type} (e : Envelope) (found : Envelope → Except Failure β)
    (read : Except Failure β) : Prop where
  itself : read = found e ↔ e.IsLegible
  of_shallow : e.IsShallow → read = found e.withoutNull
  of_deep : ¬ e.IsShallow → ∃ text, read = .error (.serialization text)

variable {e : Envelope}

theorem ofWire_wire_of_deep (hintegral : e.IsIntegral) (hdeep : ¬ e.IsShallow) :
    ∃ text, ofWire e.wire = .error (.serialization text) := by
  have hparse : Json.Document.parse Json.maxDepth e.wireChars = none := by
    rw [wireChars_eq, Option.eq_none_iff_forall_ne_some]
    intro d hparse
    obtain ⟨hdepth, -⟩ := (Json.parse_chars_eq_some_iff (integral_written hintegral)).mp hparse
    exact hdeep (depth_written_le_iff.mp hdepth)
  rw [ofWire, wire, String.toList_ofList, ofChars?, hparse]
  exact ⟨_, rfl⟩

theorem comesBack_ofWire (hproper : e.IsProper) (hintegral : e.IsIntegral)
    (htimes : ∀ t ∈ e.time, t.IsReadable) (hrules : e.validate = .ok ()) : e.ComesBack .ok (ofWire e.wire) := by
  have hwhole (hshallow : e.IsShallow) : ofWire e.wire = .ok e.withoutNull :=
    ofWire_wire_of_shallow hproper hintegral (not_mem_coreNames_of_validate hrules) htimes hshallow
  refine ⟨?_, hwhole, ofWire_wire_of_deep hintegral⟩
  constructor
  · intro hread
    have hshallow : e.IsShallow := by
      by_contra hdeep
      obtain ⟨text, hfailed⟩ := ofWire_wire_of_deep hintegral hdeep
      rw [hfailed] at hread
      simp at hread
    refine ⟨?_, hshallow⟩
    rw [hwhole hshallow] at hread
    exact withoutNull_eq_iff.mp (Except.ok.inj hread)
  · intro hlegible
    rw [hwhole hlegible.shallow, withoutNull_eq_iff.mpr hlegible.data_ne_null]

theorem ComesBack.map_some {read : Except Failure Envelope} (h : e.ComesBack .ok read) :
    e.ComesBack (fun e => .ok (some e)) (read.map some) := by
  constructor
  · rw [← h.itself]
    cases read with
    | error f => simp [Except.map]
    | ok e' => simp [Except.map]
  · intro hshallow
    rw [h.of_shallow hshallow]
    rfl
  · intro hdeep
    obtain ⟨text, hfailed⟩ := h.of_deep hdeep
    rw [hfailed]
    exact ⟨text, rfl⟩

end Envelope

namespace Dispatcher

variable {d : Dispatcher α} {env : Surroundings α σ} {e : Envelope} {w : World σ}

theorem validate_of_dispatchAfter {delay : Time.Span} {id : String}
    (h : (d.dispatchAfter env e delay w).1 = .ok id) : e.validate = .ok () := by
  unfold dispatchAfter at h
  split at h
  · simp at h
  · assumption

theorem validate_of_dispatchSync (h : (d.dispatchSync env e w).1 = some (.ok ())) :
    e.validate = .ok () := by
  cases hrules : e.validate with
  | ok u => rfl
  | error f =>
      rw [(dispatchSync_of_broken hrules).1] at h
      simp at h

section Accepted

variable (hproper : e.IsProper) (hintegral : e.IsIntegral) (htimes : ∀ t ∈ e.time, t.IsReadable)
include hproper hintegral htimes

theorem comesBack_of_dispatchAfter {delay : Time.Span} {id : String}
    (h : (d.dispatchAfter env.observed e delay (w.observed [])).1 = .ok id) :
    ∃ t, (d.dispatchAfter env.observed e delay (w.observed [])).2.outside.2 = [.queued t] ∧
      e.ComesBack .ok t.event := by
  have hrules : e.validate = .ok () := validate_of_dispatchAfter h
  refine ⟨.forEvent e d.endpoint d.key, ?_, ?_⟩
  · rw [dispatchAfter_observed]
    change [] ++ d.handOver e = _
    rw [handOver, hrules, List.nil_append]
  · rw [DeliveryTask.event, DeliveryTask.forEvent, Envelope.ofBytes, Envelope.wireBytes,
      Text.ofBytes?_bytes]
    exact Envelope.comesBack_ofWire hproper hintegral htimes hrules

theorem comesBack_of_dispatchSync (hhealthy : env.IsHealthy) (hnew : w.log.find? e.id = none)
    (h : (d.dispatchSync env e w).1 = some (.ok ())) :
    e.ComesBack (fun e => .ok (some e)) ((d.dispatchSync env e w).2.load env e.id).1 := by
  have hrules : e.validate = .ok () := validate_of_dispatchSync h
  have hrecorded : .recorded e ∈ d.deeds env e w :=
    Stage.recorded_mem_deeds hhealthy hrules hnew _
  obtain ⟨published, hrow⟩ := Stage.find?_of_recorded hrecorded
  have hlog : (d.dispatchSync env e w).2 = (d.finish env e w).2 := by rw [dispatchSync_eq]
  rw [World.load_of_isHealthy hhealthy, hlog, EventLog.load]
  rw [← finish] at hrow
  rw [hrow]
  exact (Envelope.comesBack_ofWire hproper hintegral htimes hrules).map_some

end Accepted

theorem dispatchAfter_of_calm {d : Dispatcher String} (hrules : e.validate = .ok ())
    (delay : Time.Span) (w : World Unit) :
    (d.dispatchAfter calm.observed e delay (w.observed [])).1 = .ok "task-1" := by
  rw [dispatchAfter, hrules]
  rfl

/-- An accepted event is read back as itself, both from the task that the queue got and from the
log, exactly if its data is not null and nothing in it is nested too deep. -/
theorem accepted_reads_back_iff (d : Dispatcher α) (env : Surroundings α σ) (e : Envelope)
    (hproper : e.IsProper) (hintegral : e.IsIntegral) (htimes : ∀ t ∈ e.time, t.IsReadable) :
    (∀ delay (w : World σ) id,
      (d.dispatchAfter env.observed e delay (w.observed [])).1 = .ok id →
        ∃ t, (d.dispatchAfter env.observed e delay (w.observed [])).2.outside.2 = [.queued t] ∧
          e.ComesBack .ok t.event) ∧
      (env.IsHealthy → ∀ w, w.log.find? e.id = none →
        (d.dispatchSync env e w).1 = some (.ok ()) →
          e.ComesBack (fun e => .ok (some e)) ((d.dispatchSync env e w).2.load env e.id).1) := by
  constructor
  · intro delay w id
    exact comesBack_of_dispatchAfter hproper hintegral htimes
  · intro hhealthy w hnew
    exact comesBack_of_dispatchSync hproper hintegral htimes hhealthy hnew

theorem accepted_reads_back_iff_leap :
    let t : Time.Instant :=
      ⟨⟨2016, 12, 31, by decide, by decide⟩, 86399, 1000000000, by decide, by decide⟩
    let e := ((Envelope.create "event-1" "message.phone.sent" "/v1/messages" (some t)).withData
      (.arr [.null, .str "é"])).withExtension "attempt" (.int 1)
    let d : Dispatcher String := ⟨"http://localhost/v1/events/consume", "open sesame", .empty⟩
    let w : World Unit := ⟨.empty, [], ()⟩
    let queued := d.dispatchAfter calm.observed e immediate (w.observed [])
    let told := d.dispatchSync calm e w
    e.IsProper ∧ e.IsIntegral ∧ (∀ t ∈ e.time, t.IsReadable) ∧ e.IsLegible ∧
      queued.1 = .ok "task-1" ∧ (∃ t, queued.2.outside.2 = [.queued t] ∧ t.event = .ok e) ∧
      told.1 = some (.ok ()) ∧ (told.2.load calm e.id).1 = .ok (some e) := by
  intro t e d w queued told
  have hproper : e.IsProper := by
    refine ((Envelope.isProper_create _ _ _ _).withData ?_).withExtension "attempt" ?_
    · simp [Json.Canonical, Json.CanonicalItems]
    · simp [Json.Canonical, Json.Number.InRange, Json.int]
  have hintegral : e.IsIntegral := by
    refine List.forall_mem_cons.mpr ⟨.arr ?_, List.forall_mem_singleton.mpr (.int ?_)⟩
    · exact List.forall_mem_cons.mpr ⟨.null, List.forall_mem_singleton.mpr (.str _)⟩
    · exact ⟨by decide, by decide⟩
  have htimes : ∀ t ∈ e.time, t.IsReadable := by
    intro t' ht
    obtain rfl : t = t' := Option.some.inj ht
    exact ⟨t.text, by decide +kernel⟩
  have hlegible : e.IsLegible := by
    constructor
    · simp [e, Envelope.withData, Envelope.withExtension]
    · rw [Envelope.IsShallow]
      decide
  have hrules : e.validate = .ok () := by decide +kernel
  have htaken : queued.1 = .ok "task-1" := dispatchAfter_of_calm hrules immediate w
  obtain ⟨hresult, -, -⟩ :=
    dispatchSync_of_new (d := d) (w := w) calm_isHealthy (calm_completesAll _ e) hrules rfl
  obtain ⟨hqueue, hlog⟩ := accepted_reads_back_iff d calm e hproper hintegral htimes
  obtain ⟨task, htask, hevent⟩ := hqueue immediate w "task-1" htaken
  refine ⟨hproper, hintegral, htimes, hlegible, htaken, ⟨task, htask, ?_⟩, hresult, ?_⟩
  · exact hevent.itself.mpr hlegible
  · exact (hlog calm_isHealthy w rfl hresult).itself.mpr hlegible

/-- An event whose data is null is accepted on both ways, and read back without data. -/
theorem null_data_is_lost :
    let e := (Envelope.create "event-1" "message.phone.sent" "/v1/messages" none).withData .null
    let d : Dispatcher String := ⟨"http://localhost/v1/events/consume", "open sesame", .empty⟩
    let w : World Unit := ⟨.empty, [], ()⟩
    let queued := d.dispatchAfter calm.observed e immediate (w.observed [])
    let told := d.dispatchSync calm e w
    e.IsProper ∧ e.IsIntegral ∧ (∀ t ∈ e.time, t.IsReadable) ∧ calm.IsHealthy ∧
      queued.1 = .ok "task-1" ∧
      (∃ t, queued.2.outside.2 = [.queued t] ∧ t.event = .ok { e with data := none } ∧
        t.event ≠ .ok e) ∧
      told.1 = some (.ok ()) ∧
      (told.2.load calm e.id).1 = .ok (some { e with data := none }) ∧
      (told.2.load calm e.id).1 ≠ .ok (some e) := by
  intro e d w queued told
  have hproper : e.IsProper := (Envelope.isProper_create _ _ _ _).withData trivial
  have hintegral : e.IsIntegral := List.forall_mem_singleton.mpr .null
  have htimes : ∀ t ∈ e.time, t.IsReadable := by
    rintro t ⟨⟩
  have hshallow : e.IsShallow := List.forall_mem_singleton.mpr (Nat.zero_le _)
  have hlost : ¬ e.IsLegible := fun hlegible => hlegible.data_ne_null rfl
  have hrules : e.validate = .ok () := by decide +kernel
  have htaken : queued.1 = .ok "task-1" := dispatchAfter_of_calm hrules immediate w
  obtain ⟨hresult, -, -⟩ :=
    dispatchSync_of_new (d := d) (w := w) calm_isHealthy (calm_completesAll _ e) hrules rfl
  obtain ⟨task, htask, hevent⟩ := comesBack_of_dispatchAfter hproper hintegral htimes htaken
  have hloaded : e.ComesBack (fun e => .ok (some e)) (told.2.load calm e.id).1 :=
    comesBack_of_dispatchSync hproper hintegral htimes calm_isHealthy rfl hresult
  refine ⟨hproper, hintegral, htimes, calm_isHealthy, htaken, ⟨task, htask, ?_, ?_⟩, hresult, ?_,
    ?_⟩
  · exact hevent.of_shallow hshallow
  · exact fun heq => hlost (hevent.itself.mp heq)
  · exact hloaded.of_shallow hshallow
  · exact fun heq => hlost (hloaded.itself.mp heq)

end Dispatcher

end SmsGateway
