import SmsGateway.Proofs.Dispatch.Healthy
import SmsGateway.Proofs.Dispatch.Overlap
import SmsGateway.Proofs.Event.Lossless

namespace SmsGateway

variable {α σ : Type}

namespace Dispatches

variable {env : Surroundings α σ} {registry : Registry α}

theorem event_of_move {s : Dispatches α σ} {m : Move} {i : Nat} {call : DispatchCall α}
    (hcall : (s.move env registry m).calls[i]? = some call) :
    m = .submit call.event ∨ ∃ before, s.calls[i]? = some before ∧ before.event = call.event := by
  cases m with
  | submit e =>
      rw [move, List.getElem?_append] at hcall
      split at hcall
      · exact .inr ⟨call, hcall, rfl⟩
      · rw [List.mem_singleton.mp (List.mem_of_getElem? hcall)]
        exact .inl rfl
  | advance j | tell j k | drop j =>
      right
      simp only [move, withCall] at hcall
      repeat' split at hcall
      all_goals grind

theorem submit_mem_of_call {s : Dispatches α σ} (hnew : s.calls = []) {moves : List Move} {i : Nat}
    {call : DispatchCall α} (hcall : (s.run env registry moves).calls[i]? = some call) :
    .submit call.event ∈ moves := by
  induction moves using List.reverseRecOn generalizing call with
  | nil => simp [run, hnew] at hcall
  | append_singleton moves m ih =>
      rw [run_append] at hcall
      rcases event_of_move hcall with rfl | ⟨before, hbefore, hevent⟩
      · exact List.mem_append_right _ (List.mem_singleton.mpr rfl)
      · rw [← hevent]
        exact List.mem_append_left _ (ih hbefore)

theorem event_of_run {s : Dispatches α σ} {moves : List Move} {i : Nat}
    {call call' : DispatchCall α} (hcall : s.calls[i]? = some call)
    (hcall' : (s.run env registry moves).calls[i]? = some call') : call'.event = call.event := by
  induction moves generalizing s call with
  | nil => exact congrArg DispatchCall.event (Option.some.inj (hcall'.symm.trans hcall))
  | cons m moves ih =>
      obtain ⟨next, hnext, hevent⟩ : ∃ next, (s.move env registry m).calls[i]? = some next ∧
          next.event = call.event := by
        have hchange := change_move env registry s m
        generalize s.deed? env m = d, s.move env registry m = s' at hchange
        cases hchange with
        | submit e =>
            rw [List.getElem?_append_left (List.getElem?_eq_some_iff.mp hcall).1]
            exact ⟨call, hcall, rfl⟩
        | idle => exact ⟨call, hcall, rfl⟩
        | @drop j other hother | @step j other d after hother hstep =>
            by_cases hij : j = i
            · subst hij
              obtain rfl := Option.some.inj (hother.symm.trans hcall)
              exact ⟨_, List.getElem?_set_self (List.getElem?_eq_some_iff.mp hcall).1, rfl⟩
            · exact ⟨call, (List.getElem?_set_ne hij).trans hcall, rfl⟩
      rw [← hevent]
      exact ih hnext hcall'

theorem submit_mem_of_passes {notices : List Notice} {outside : σ} {moves : List Move}
    {x : Moment α σ} (hx : x ∈ (start notices outside).moments env registry moves) {i : Nat}
    {e : Envelope} {a b : Stage α} (h : x.Passes env registry i e a b) : .submit e ∈ moves := by
  obtain ⟨first, rest, rfl, hbefore, -⟩ := exists_moves_of_mem hx
  obtain ⟨dropped, hcall⟩ := h.before
  rw [hbefore] at hcall
  have hsubmit : .submit e ∈ first := submit_mem_of_call rfl hcall
  exact List.mem_append_left _ hsubmit

/-- What a call has recorded is in the log, published or not. -/
theorem find?_of_creates {s : Dispatches α σ} {moves : List Move} {x : Moment α σ}
    (hx : x ∈ s.moments env registry moves) {i : Nat} {e : Envelope}
    (h : x.Creates env registry i e) :
    ∃ published, (s.run env registry moves).world.log.find? e.id =
      some { LogRow.ofEnvelope e with published } := by
  obtain ⟨d, -, hstep⟩ := Moment.Passes.exists_step h (by simp)
  obtain rfl := hstep.deed_of_recorded
  obtain ⟨first, rest, -, -, hrun⟩ := exists_moves_of_mem hx
  rw [hrun]
  obtain ⟨published, hkept, -⟩ := growsInto_run _ rest _ _ hstep.find?_of_recorded.2
  exact ⟨published, hkept⟩

/-- No other event was handed in under the id of an event. -/
def Unrivalled (moves : List Move) (e : Envelope) : Prop :=
  ∀ e', .submit e' ∈ moves → e'.id = e.id → e' = e

/-- What the log holds, and by which call, when a call tells of an event. -/
structure Holds (env : Surroundings α σ) (registry : Registry α) (s : Dispatches α σ)
    (h : List (Moment α σ)) (moves : List Move) (teller : Nat) (told : Envelope) (recorder : Nat)
    (held : Envelope) : Prop where
  recorded : ∃ y ∈ h, y.Creates env registry recorder held
  submitted : .submit held ∈ moves
  same_id : held.id = told.id
  loaded : (s.world.load env told.id).1 = .ok (some held)
  own : recorder = teller → held = told
  unrivalled : Unrivalled moves told → held = told

/-- What came before a call learned that its event is published: another call marked the id, after
a whole fan-out of its own event. -/
structure Preceded (env : Surroundings α σ) (registry : Registry α) (before : List (Moment α σ))
    (moves : List Move) (i : Nat) (e : Envelope) (earlier : Nat) (first : Envelope) : Prop where
  other : earlier ≠ i
  same_id : first.id = e.id
  wholeFanOut : WholeFanOut registry first (Moment.traceOf env registry earlier before)
  unrivalled : Unrivalled moves e → first = e

theorem holds_of_starts (hhealthy : env.IsHealthy) {notices : List Notice} {outside : σ}
    {moves : List Move} (hreceived : ∀ e, .submit e ∈ moves → e.IsReceived) {m : Move} {i : Nat}
    {e : Envelope}
    (hstarts : Moment.Starts env registry ⟨(start notices outside).run env registry moves, m⟩ i e) :
    ∃ j held, Holds env registry ((start notices outside).run env registry moves)
      ((start notices outside).moments env registry moves) moves i e j held := by
  have ht : Tracked env registry _ _ :=
    tracked_run hhealthy.feignsNoDuplicate notices outside moves
  have hfound := ht.isSome_find?_of_starts hstarts
  obtain ⟨y, hy, j, held, hcreates, hid⟩ := (found_iff_run moves e.id).mp hfound
  have hsubmitted : .submit held ∈ moves := submit_mem_of_passes hy hcreates
  obtain ⟨published, hrow⟩ := find?_of_creates hy hcreates
  refine ⟨j, held, ⟨y, hy, hcreates⟩, hsubmitted, hid, ?_, ?_, fun h => h held hsubmitted hid⟩
  · rw [World.load_of_isHealthy hhealthy, EventLog.load, ← hid, hrow]
    change (Envelope.ofWire held.wire).map some = .ok (some held)
    rw [(hreceived held hsubmitted).ofWire_wire]
    rfl
  · rintro rfl
    obtain ⟨d, hdeed, hstarted⟩ := Moment.starts_iff.mp hstarts
    obtain ⟨e', a, b, ⟨⟨dropped, hcall⟩, -⟩, hstep⟩ :=
      Moment.exists_passes_of_deed? registry hdeed
    obtain ⟨-, rfl⟩ := hstep.isOpen_of_started hstarted
    exact (ht.progress j _ hcall).event_of_recorded
      (Moment.mem_deedsOf.mpr ⟨y, hy, Moment.creates_iff.mp hcreates⟩)

theorem preceded_of_duplicate (hhonest : env.FeignsNoDuplicate) {notices : List Notice}
    {outside : σ} {moves : List Move} {i : Nat} {call : DispatchCall α} {f : Failure}
    (hcall : ((start notices outside).run env registry moves).calls[i]? = some call)
    (hstage : call.stage = .ended (.error f)) (hduplicate : f.isDuplicate = true) :
    ∃ before y between x after j first,
      (start notices outside).moments env registry moves =
          before ++ y :: (between ++ x :: after) ∧
        y.Marks env registry j first ∧ x.Learns env registry i call.event true ∧
          Preceded env registry before moves i call.event j first := by
  have ht : Tracked env registry _ _ := tracked_run hhonest notices outside moves
  have hprogress := ht.progress i call hcall
  rw [hstage] at hprogress
  obtain ⟨hdeeds, -⟩ := hprogress.eq_of_duplicate hhonest hduplicate
  obtain ⟨x, hx, hdeed⟩ : ∃ x ∈ (start notices outside).moments env registry moves,
      x.deed? env = some (i, .answered call.event.id true) := by
    rw [← Moment.mem_deedsOf, hdeeds]
    exact List.mem_cons_of_mem _ List.mem_cons_self
  obtain ⟨past, after, hpast⟩ := List.append_of_mem hx
  obtain ⟨e, hlearns, hid⟩ := Moment.exists_learns registry hdeed
  obtain rfl : e = call.event := by
    obtain ⟨-, f', ⟨dropped, hbefore⟩, -⟩ := hlearns
    obtain ⟨first, rest, rfl, hfirst, -⟩ := exists_moves_of_mem hx
    rw [run_append, ← hfirst] at hcall
    exact (event_of_run hbefore hcall).symm
  obtain ⟨y, hy, j, first, hmarks, hsame⟩ :=
    ((at_moment hhonest hpast).2.2 call.event.id).mp hlearns.isPublished_eq
  obtain ⟨before, between, rfl⟩ := List.append_of_mem hy
  rw [List.append_assoc, List.cons_append] at hpast
  have hmem : y ∈ (start notices outside).moments env registry moves := by simp [hpast]
  refine ⟨before, y, between, x, after, j, first, hpast, hmarks, hlearns, ?_, hsame, ?_, ?_⟩
  · rintro rfl
    have hmarked := Moment.mem_deedsOf.mpr ⟨y, hmem, hmarks.deed?_eq⟩
    rw [hdeeds] at hmarked
    simp at hmarked
  · exact (at_moment hhonest hpast).1.wholeFanOut_of_marks hmarks
  · intro honly
    obtain ⟨summary, hpasses⟩ := hmarks
    exact honly first (submit_mem_of_passes hmem hpasses) hsame

/-- What listeners and callers can rely on in a run. -/
structure Grounded (env : Surroundings α σ) (registry : Registry α) (s : Dispatches α σ)
    (h : List (Moment α σ)) (moves : List Move) : Prop where
  /-- Whenever a call tells of an event, the log holds one that was recorded under its id. -/
  told : ∀ m i e, Moment.Starts env registry ⟨s, m⟩ i e →
    ∃ j held, Holds env registry s h moves i e j held
  /-- Whenever a call ended with a duplicate, the id was marked after a whole fan-out. -/
  duplicate : ∀ (i : Nat) call f, s.calls[i]? = some call → call.stage = .ended (.error f) →
    f.isDuplicate = true → ∃ before y between x after j first,
      h = before ++ y :: (between ++ x :: after) ∧
        y.Marks env registry j first ∧ x.Learns env registry i call.event true ∧
          Preceded env registry before moves i call.event j first

/-- Over a log that answers every call, however calls overlap and wherever they are dropped, nothing
is told of that is not recorded under its id, and nothing is taken for a duplicate whose id was not
told of. -/
theorem grounded_run (env : Surroundings α σ) (registry : Registry α) (hhealthy : env.IsHealthy)
    (notices : List Notice) (outside : σ) (moves : List Move)
    (hreceived : ∀ e, .submit e ∈ moves → e.IsReceived) :
    Grounded env registry ((start notices outside).run env registry moves)
      ((start notices outside).moments env registry moves) moves := by
  constructor
  · intro m i e hstarts
    exact holds_of_starts hhealthy hreceived hstarts
  · intro i call f hcall hstage hduplicate
    exact preceded_of_duplicate hhealthy.feignsNoDuplicate hcall hstage hduplicate

theorem grounded_redelivery :
    let e := Envelope.create "event-1" "message.phone.sent" "/v1/messages" none
    let registry := Registry.empty.subscribe "message.phone.sent" "webhook"
    let moves : List Move :=
      [.submit e, .advance 0, .advance 0, .drop 0, .submit e] ++ List.replicate 7 (.advance 1)
    calm.IsHealthy ∧ (∀ e', .submit e' ∈ moves → e'.IsReceived) ∧
      Grounded calm registry ((start [] ()).run calm registry moves)
        ((start [] ()).moments calm registry moves) moves := by
  intro e registry moves
  have hreceived : ∀ e', .submit e' ∈ moves → e'.IsReceived := by
    intro e' hmem
    obtain rfl : e' = e := by simpa [moves] using hmem
    exact Envelope.isReceived_create _ _ _
  exact ⟨calm_isHealthy, hreceived,
    grounded_run calm registry calm_isHealthy [] () moves hreceived⟩

section

variable {a b : Envelope} {registry : Registry String} {notices : List Notice}

theorem run_interrupted (hrules : a.validate = .ok ()) :
    (start [] ()).run calm registry [.submit a, .advance 0, .advance 0, .drop 0] =
      ⟨[⟨a, .recorded, true⟩], ⟨.mk [.ofEnvelope a], [EventLog.recorded], ()⟩⟩ := by
  simp [run, move, start, withCall, Stage.advance, hrules, Stage.noted, Stage.afterCheck,
    Stage.afterCreate, World.create, World.call, World.note, calm, EventLog.create,
    EventLog.find?, EventLog.empty]

/-- A call with another event of that id comes after it, up to the turn of its listener. -/
theorem run_taken_over (hrules : a.validate = .ok ()) (hrules' : b.validate = .ok ())
    (hid : a.id = b.id) (hlistener : registry.listeners b.type = ["webhook"]) :
    (start [] ()).run calm registry ([.submit a, .advance 0, .advance 0, .drop 0] ++
        .submit b :: List.replicate 4 (.advance 1)) =
      ⟨[⟨a, .recorded, true⟩, ⟨b, .publishing ⟨["webhook"], [], ⟨1, 0⟩⟩, false⟩],
        ⟨.mk [.ofEnvelope a], [EventLog.recorded,
          .of .warn "event recorded but never published, publishing again" []], ()⟩⟩ := by
  have hduplicate : (Failure.duplicateEvent b.id).code = .duplicateEvent := rfl
  rw [run_append, run_interrupted hrules]
  simp [run, move, withCall, Stage.advance, hrules', Stage.noted, Stage.afterCheck,
    Stage.afterCreate, Stage.afterLookup, Stage.beginFanOut, World.create, World.isPublished,
    World.call, World.note, calm, EventLog.create, EventLog.isPublished, EventLog.find?,
    LogRow.ofEnvelope, hid, Failure.isDuplicate, hduplicate, hlistener, List.replicate]

theorem calls_run_refused (hrules : a.validate = .ok ()) (hid : a.id = b.id) :
    ((Dispatches.mk
      [⟨a, .recorded, true⟩, ⟨b, .publishing ⟨["webhook"], [], ⟨1, 0⟩⟩, false⟩]
      ⟨.mk [.ofEnvelope a], notices, ()⟩).run calm registry
        (List.replicate 3 (.advance 1) ++ .submit a :: List.replicate 3 (.advance 2))).calls[2]? =
      some ⟨a, .ended (.error (.duplicateEvent a.id)), false⟩ := by
  have hduplicate : (Failure.duplicateEvent b.id).code = .duplicateEvent := rfl
  simp [run, move, withCall, Stage.advance, hrules, Stage.noted, Stage.afterCheck,
    Stage.afterCreate, Stage.afterLookup, Stage.tell, Stage.afterMark, World.create,
    World.isPublished, World.markPublished, World.call, World.note, calm, EventLog.create,
    EventLog.isPublished, EventLog.markPublished, EventLog.find?, LogRow.ofEnvelope, hid,
    Failure.isDuplicate, hduplicate, List.replicate]

end

/-- Two events that share an id, the first of which is interrupted after it was recorded. The
listener is told of the second while the log holds the first, and the first is taken for a duplicate
though no listener was ever told of it. -/
theorem held_is_another_event :
    let a := Envelope.create "event-1" "message.phone.sent" "/v1/messages" none
    let b := Envelope.create "event-1" "message.phone.delivered" "/v1/messages" none
    let registry := (Registry.empty.subscribe a.type "webhook").subscribe b.type "webhook"
    let moves : List Move := [.submit a, .advance 0, .advance 0, .drop 0] ++
      .submit b :: List.replicate 4 (.advance 1)
    let more : List Move := List.replicate 3 (.advance 1) ++ .submit a ::
      List.replicate 3 (.advance 2)
    let s := (start [] ()).run calm registry moves
    calm.IsHealthy ∧
      (∀ e, .submit e ∈ moves ++ more → e.IsReceived ∧ e.validate = .ok ()) ∧
      Moment.trace calm registry ⟨s, .advance 1⟩ = [.turn ⟨"webhook", b, some .handled⟩] ∧
      (s.world.load calm b.id).1 = .ok (some a) ∧ a ≠ b ∧
      (s.run calm registry more).calls[2]? =
        some ⟨a, .ended (.error (.duplicateEvent a.id)), false⟩ ∧
      ∀ i, ¬ WholeFanOut registry a
        (Moment.traceOf calm registry i ((start [] ()).moments calm registry (moves ++ more))) := by
  intro a b registry moves more s
  have ha : a.validate = .ok () := by decide +kernel
  have hb : b.validate = .ok () := by decide +kernel
  have hs : s = _ := run_taken_over ha hb rfl (by decide +kernel)
  refine ⟨calm_isHealthy, ?_, ?_, ?_, ?_, ?_, ?_⟩
  · intro e hmem
    have hcases : e = a ∨ e = b ∨ e = a := by simpa [moves, more] using hmem
    rcases hcases with rfl | rfl | rfl
    · exact ⟨Envelope.isReceived_create _ _ _, ha⟩
    · exact ⟨Envelope.isReceived_create _ _ _, hb⟩
    · exact ⟨Envelope.isReceived_create _ _ _, ha⟩
  · rw [hs]
    rfl
  · rw [hs, World.load_of_isHealthy calm_isHealthy]
    change (Envelope.ofWire a.wire).map some = .ok (some a)
    rw [(Envelope.isReceived_create _ _ _).ofWire_wire]
    rfl
  · intro h
    have := congrArg Envelope.type h
    simp [a, b, Envelope.create] at this
  · rw [hs]
    exact calls_run_refused ha rfl
  · rintro i hwhole
    have hlisteners : "webhook" ∈ registry.listeners a.type := by decide +kernel
    obtain ⟨t, ht, -⟩ := List.mem_map.mp (hwhole.once.mem_iff.mpr hlisteners)
    have hturns : ∀ t ∈ turnsIn (((start [] ()).moments calm registry (moves ++ more)).flatMap
        (Moment.trace calm registry)), t.event.type ≠ a.type := by
      decide +kernel
    refine hturns t ?_ (congrArg Envelope.type (hwhole.same_event t ht))
    obtain ⟨entry, hentry, hturn⟩ := List.mem_filterMap.mp ht
    obtain ⟨x, hx, hasked⟩ := List.mem_flatMap.mp hentry
    exact List.mem_filterMap.mpr
      ⟨entry, List.mem_flatMap.mpr ⟨x, List.mem_of_mem_filter hx, hasked⟩, hturn⟩

end Dispatches

end SmsGateway
