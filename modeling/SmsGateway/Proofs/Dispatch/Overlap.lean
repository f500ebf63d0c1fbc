import SmsGateway.Proofs.Dispatch.Moments
import SmsGateway.Proofs.Dispatch.Progress

namespace SmsGateway

variable {α σ : Type}

namespace Stage

variable {env : Surroundings α σ} {registry : Registry α} {e : Envelope} {s s' : Stage α}
  {log log' : EventLog} {d : Option (Deed α)}

theorem Step.isSome_find?_iff (h : Step env registry e s log d s' log') (id : String) :
    (log'.find? id).isSome ↔ (log.find? id).isSome ∨ ∃ e', d = some (.recorded e') ∧ e'.id = id := by
  cases h with
  | create hcreate =>
      rw [EventLog.find?_create hcreate]
      by_cases hid : id = e.id
      · simp [hid]
      · have hother : e.id ≠ id := fun h => hid h.symm
        simp [hid, hother]
  | mark hmark =>
      rw [EventLog.find?_markPublished hmark]
      by_cases hid : id = e.id <;> simp [hid]
  | _ => simp

theorem Step.isPublished_iff (h : Step env registry e s log d s' log') (id : String) :
    log'.isPublished id = true ↔ log.isPublished id = true ∨ d = some (.marked id) := by
  cases h with
  | create hcreate => simp [EventLog.isPublished_create hcreate]
  | mark hmark =>
      rw [EventLog.isPublished_markPublished hmark, Bool.or_eq_true, decide_eq_true_eq, or_comm,
        Option.some.injEq, Deed.marked.injEq, eq_comm (a := id)]
  | _ => simp

theorem Step.isPublished_of_answered {id : String} {published : Bool}
    (h : Step env registry e s log (some (.answered id published)) s' log') :
    log.isPublished id = published := by
  cases h with
  | lookupPublished hpublished | lookupUnpublished hpublished => exact hpublished

end Stage

namespace Moment

variable {env : Surroundings α σ} {registry : Registry α} {x : Moment α σ}

theorem Creates.find?_eq_none {i : Nat} {e : Envelope} (h : x.Creates env registry i e) :
    x.before.world.log.find? e.id = none := by
  obtain ⟨d, -, hstep⟩ := Passes.exists_step h (by simp)
  rw [hstep.deed_of_recorded] at hstep
  exact hstep.find?_of_recorded.1

theorem Learns.isPublished_eq {i : Nat} {e : Envelope} {published : Bool}
    (h : x.Learns env registry i e published) :
    x.before.world.log.isPublished e.id = published := by
  obtain ⟨e', a, b, -, hstep⟩ := exists_passes_of_deed? registry h.deed?_eq
  exact hstep.isPublished_of_answered

theorem isSome_find?_after_iff (id : String) :
    ((x.after env registry).world.log.find? id).isSome ↔
      (x.before.world.log.find? id).isSome ∨
        ∃ i e, x.Creates env registry i e ∧ e.id = id := by
  simp only [creates_iff]
  have hchange := x.change env registry
  generalize x.deed? env = d, x.after env registry = s' at hchange
  cases hchange with
  | step hcall hstep =>
      rw [Dispatches.withCall, hstep.isSome_find?_iff]
      apply or_congr_right
      simp
  | _ => simp

theorem isPublished_after_iff (id : String) :
    (x.after env registry).world.log.isPublished id = true ↔
      x.before.world.log.isPublished id = true ∨
        ∃ i e, x.Marks env registry i e ∧ e.id = id := by
  have hmarks : (∃ i e, x.Marks env registry i e ∧ e.id = id) ↔
      ∃ i, x.deed? env = some (i, .marked id) := by
    constructor
    · rintro ⟨i, e, hmarks, rfl⟩
      exact ⟨i, hmarks.deed?_eq⟩
    · rintro ⟨i, hdeed⟩
      exact ⟨i, exists_marks hdeed⟩
  rw [hmarks]
  have hchange := x.change env registry
  generalize x.deed? env = d, x.after env registry = s' at hchange
  cases hchange with
  | step hcall hstep =>
      rw [Dispatches.withCall, hstep.isPublished_iff]
      simp
  | _ => simp

end Moment

namespace Dispatches

variable {env : Surroundings α σ} {registry : Registry α}

theorem isSome_find?_run_iff (s : Dispatches α σ) (moves : List Move) (id : String) :
    ((s.run env registry moves).world.log.find? id).isSome ↔
      (s.world.log.find? id).isSome ∨
        ∃ x ∈ s.moments env registry moves, ∃ i e, x.Creates env registry i e ∧ e.id = id := by
  induction moves generalizing s with
  | nil => simp [run, moments]
  | cons m moves ih =>
      change ((run env registry (Moment.after env registry ⟨s, m⟩) moves).world.log.find? id).isSome ↔ _
      rw [ih, Moment.isSome_find?_after_iff, or_assoc, moments, List.exists_mem_cons_iff]
      rfl

theorem isPublished_run_iff (s : Dispatches α σ) (moves : List Move) (id : String) :
    (s.run env registry moves).world.log.isPublished id = true ↔
      s.world.log.isPublished id = true ∨
        ∃ x ∈ s.moments env registry moves, ∃ i e, x.Marks env registry i e ∧ e.id = id := by
  induction moves generalizing s with
  | nil => simp [run, moments]
  | cons m moves ih =>
      change (run env registry (Moment.after env registry ⟨s, m⟩) moves).world.log.isPublished id =
        true ↔ _
      rw [ih, Moment.isPublished_after_iff, or_assoc, moments, List.exists_mem_cons_iff]
      rfl

/-- Every call is where its deeds have brought it. -/
structure Tracked (env : Surroundings α σ) (registry : Registry α) (s : Dispatches α σ)
    (h : List (Moment α σ)) : Prop where
  progress : ∀ i call, s.calls[i]? = some call →
    Stage.Progress env registry call.event s.world.log (Moment.deedsOf env i h) call.stage
  fresh : ∀ i, s.calls.length ≤ i → Moment.deedsOf env i h = []

theorem tracked_start (notices : List Notice) (outside : σ) :
    Tracked env registry (start notices outside) [] where
  progress i call hcall := by simp [start] at hcall
  fresh i _ := rfl

variable {s : Dispatches α σ} {h : List (Moment α σ)}

theorem Tracked.submit (ht : Tracked env registry s h) (e : Envelope) :
    Tracked env registry { s with calls := s.calls ++ [⟨e, .received, false⟩] } h := by
  constructor
  · intro i call hcall
    rw [List.getElem?_append] at hcall
    split at hcall
    · exact ht.progress i call hcall
    · next hi =>
        obtain rfl := List.mem_singleton.mp (List.mem_of_getElem? hcall)
        rw [ht.fresh i (by omega)]
        exact .received
  · intro i hi
    rw [List.length_append] at hi
    exact ht.fresh i (by omega)

theorem Tracked.drop (ht : Tracked env registry s h) {i : Nat} {call : DispatchCall α}
    (hcall : s.calls[i]? = some call) :
    Tracked env registry { s with calls := s.calls.set i { call with dropped := true } } h := by
  constructor
  · intro j other hother
    rw [List.getElem?_set] at hother
    split at hother
    · next hij =>
        subst hij
        split at hother
        · obtain rfl := Option.some.inj hother
          exact ht.progress i call hcall
        · simp at hother
    · exact ht.progress j other hother
  · intro j hj
    rw [List.length_set] at hj
    exact ht.fresh j hj

/-- The call that took a step gets on, and for all others the log has only grown. -/
theorem Tracked.step (hhonest : env.FeignsNoDuplicate) (ht : Tracked env registry s h) {i : Nat}
    {call : DispatchCall α} {d : Option (Deed α)} {after : Stage α × World σ} {x : Moment α σ}
    (hcall : s.calls[i]? = some call) (hdeed : x.deed? env = d.map (i, ·))
    (hstep : Stage.Step env registry call.event call.stage s.world.log d after.1 after.2.log) :
    Tracked env registry (s.withCall i call after) (h ++ [x]) := by
  constructor
  · intro j other hother
    rw [Moment.deedsOf_append, Moment.deedsOf_singleton hdeed]
    rw [withCall, List.getElem?_set] at hother
    split at hother
    · next hij =>
        subst hij
        split at hother
        · obtain rfl := Option.some.inj hother
          rw [if_pos rfl]
          exact (ht.progress i call hcall).step hhonest hstep
        · simp at hother
    · next hij =>
        rw [if_neg hij, List.append_nil]
        exact (ht.progress j other hother).mono hstep.growsInto
  · intro j hj
    rw [withCall, List.length_set] at hj
    have hij : i ≠ j := by
      have := (List.getElem?_eq_some_iff.mp hcall).1
      omega
    rw [Moment.deedsOf_append, Moment.deedsOf_singleton hdeed, if_neg hij, List.append_nil]
    exact ht.fresh j hj

theorem Tracked.idle (ht : Tracked env registry s h) {x : Moment α σ} (hdeed : x.deed? env = none) :
    Tracked env registry s (h ++ [x]) := by
  have hnone (i : Nat) : Moment.deedsOf env i (h ++ [x]) = Moment.deedsOf env i h := by
    rw [Moment.deedsOf_append, Moment.deedsOf_singleton (d := none) (i := i) hdeed, if_pos rfl]
    exact List.append_nil _
  constructor
  all_goals simp only [hnone]
  · exact ht.progress
  · exact ht.fresh

theorem Tracked.move (hhonest : env.FeignsNoDuplicate) (ht : Tracked env registry s h) (m : Move) :
    Tracked env registry (s.move env registry m) (h ++ [⟨s, m⟩]) := by
  have hchange : s.Change env registry (Moment.deed? env ⟨s, m⟩) (s.move env registry m) :=
    change_move env registry s m
  generalize hdeed : Moment.deed? env ⟨s, m⟩ = d, s.move env registry m = s' at hchange
  cases hchange with
  | submit e => exact (ht.submit e).idle hdeed
  | drop hcall => exact (ht.drop hcall).idle hdeed
  | step hcall hstep => exact ht.step hhonest hcall hdeed hstep
  | idle => exact ht.idle hdeed

theorem Tracked.exists_call (ht : Tracked env registry s h) {i : Nat} {d : Deed α}
    (hmem : d ∈ Moment.deedsOf env i h) : ∃ call, s.calls[i]? = some call := by
  refine ⟨_, List.getElem?_eq_getElem (Nat.lt_of_not_le ?_)⟩
  intro hfresh
  rw [ht.fresh i hfresh] at hmem
  simp at hmem

theorem tracked_run (hhonest : env.FeignsNoDuplicate) (notices : List Notice) (outside : σ)
    (moves : List Move) :
    Tracked env registry ((start notices outside).run env registry moves)
      ((start notices outside).moments env registry moves) := by
  induction moves using List.reverseRecOn with
  | nil => exact tracked_start notices outside
  | append_singleton moves m ih =>
      rw [run_append, moments_append]
      exact ih.move hhonest m

/-- What holds of calls that share a log, in whatever order they took their steps. The moments are
those of the run that led to the state. -/
structure Orderly (env : Surroundings α σ) (registry : Registry α) (s : Dispatches α σ)
    (h : List (Moment α σ)) : Prop where
  /-- An id is in the log when a call recorded it. -/
  found_iff : ∀ id, (s.world.log.find? id).isSome ↔
    ∃ x ∈ h, ∃ i e, x.Creates env registry i e ∧ e.id = id
  /-- No id is recorded twice. -/
  created_once : ∀ before x after, h = before ++ x :: after → ∀ i e, x.Creates env registry i e →
    ∀ y ∈ before, ∀ j e', y.Creates env registry j e' → e'.id ≠ e.id
  /-- Listeners are started only after the id of their event was recorded. -/
  started_after_created : ∀ before x after, h = before ++ x :: after →
    ∀ i e, x.Starts env registry i e →
      ∃ y ∈ before, ∃ j e', y.Creates env registry j e' ∧ e'.id = e.id
  /-- A marker is set when a call set it. -/
  published_iff : ∀ id, s.world.log.isPublished id = true ↔
    ∃ x ∈ h, ∃ i e, x.Marks env registry i e ∧ e.id = id
  /-- Before a call sets a marker, all listeners of its event have ended with that event. -/
  marked_after_fanOut : ∀ before x after, h = before ++ x :: after →
    ∀ i e, x.Marks env registry i e →
      WholeFanOut registry e (Moment.traceOf env registry i before)
  /-- A call that succeeded has told all listeners, and the marker is set. -/
  of_succeeded : ∀ (i : Nat) call, s.calls[i]? = some call → call.stage = .ended (.ok ()) →
    WholeFanOut registry call.event (Moment.traceOf env registry i h) ∧
      s.world.log.isPublished call.event.id = true
  /-- A call that ended with a duplicate has started nobody, and the marker is set. -/
  of_duplicate : ∀ (i : Nat) call f, s.calls[i]? = some call → call.stage = .ended (.error f) →
    f.isDuplicate = true → (∀ x ∈ h, ∀ e, ¬ x.Starts env registry i e) ∧
      s.world.log.isPublished call.event.id = true
  /-- A lookup that gets to the log is answered, and truly. -/
  answered_truly : ∀ before x after, h = before ++ x :: after →
    (.log .isPublished none ∈ x.trace env registry →
      ∃ i e published, x.Learns env registry i e published) ∧
    ∀ i e published, x.Learns env registry i e published →
      (published = true ↔ ∃ y ∈ before, ∃ j e', y.Marks env registry j e' ∧ e'.id = e.id)
  /-- A call that was told that its id is published ends with the duplicate and starts nobody. -/
  of_learned_published : ∀ (i : Nat) call, s.calls[i]? = some call →
    ∀ x ∈ h, ∀ e, x.Learns env registry i e true →
      call.stage = .ended (.error (.duplicateEvent call.event.id)) ∧
        ∀ y ∈ h, ∀ e, ¬ y.Starts env registry i e
  /-- A call that was told that its id is not published ends only after a whole fan-out. -/
  of_learned_unpublished : ∀ (i : Nat) call r, s.calls[i]? = some call → call.stage = .ended r →
    ∀ x ∈ h, ∀ e, x.Learns env registry i e false →
      WholeFanOut registry call.event (Moment.traceOf env registry i h)
  /-- A call that could not learn whether its id is published ends with that failure and starts
  nobody. -/
  of_refused_lookup : ∀ (i : Nat) call f, s.calls[i]? = some call →
    .log .isPublished (some f) ∈ Moment.traceOf env registry i h →
      call.stage = .ended (.error f) ∧ ∀ y ∈ h, ∀ e, ¬ y.Starts env registry i e

section Run

variable {notices : List Notice} {outside : σ} {moves : List Move}
  {before after : List (Moment α σ)} {x : Moment α σ}

theorem found_iff_run (moves : List Move) (id : String) :
    (((start notices outside).run env registry moves).world.log.find? id).isSome ↔
      ∃ x ∈ (start notices outside).moments env registry moves,
        ∃ i e, x.Creates env registry i e ∧ e.id = id := by
  rw [isSome_find?_run_iff]
  simp [start, EventLog.find?_empty]

theorem published_iff_run (moves : List Move) (id : String) :
    ((start notices outside).run env registry moves).world.log.isPublished id = true ↔
      ∃ x ∈ (start notices outside).moments env registry moves,
        ∃ i e, x.Marks env registry i e ∧ e.id = id := by
  rw [isPublished_run_iff]
  simp [start, EventLog.isPublished_empty]

theorem at_moment (hhonest : env.FeignsNoDuplicate)
    (h : (start notices outside).moments env registry moves = before ++ x :: after) :
    Tracked env registry x.before before ∧
      (∀ id, (x.before.world.log.find? id).isSome ↔
        ∃ y ∈ before, ∃ i e, y.Creates env registry i e ∧ e.id = id) ∧
      ∀ id, x.before.world.log.isPublished id = true ↔
        ∃ y ∈ before, ∃ i e, y.Marks env registry i e ∧ e.id = id := by
  obtain ⟨first, rest, -, rfl, hbefore, -⟩ := exists_moves_of_moments h
  rw [hbefore]
  exact ⟨tracked_run hhonest notices outside first, found_iff_run first, published_iff_run first⟩

end Run

theorem Tracked.isSome_find?_of_starts {x : Moment α σ} (ht : Tracked env registry x.before h)
    {i : Nat} {e : Envelope} (hstarts : x.Starts env registry i e) :
    (x.before.world.log.find? e.id).isSome := by
  obtain ⟨d, hdeed, hstarted⟩ := Moment.starts_iff.mp hstarts
  obtain ⟨e', a, b, ⟨⟨dropped, hcall⟩, -⟩, hstep⟩ :=
    Moment.exists_passes_of_deed? registry hdeed
  obtain ⟨hopen, rfl⟩ := hstep.isOpen_of_started hstarted
  exact (ht.progress i _ hcall).isSome_find?_of_isOpen hopen

theorem Tracked.wholeFanOut_of_marks {x : Moment α σ} (ht : Tracked env registry x.before h)
    {i : Nat} {e : Envelope} (hmarks : x.Marks env registry i e) :
    WholeFanOut registry e (Moment.traceOf env registry i h) := by
  obtain ⟨summary, ⟨dropped, hcall⟩, -⟩ := hmarks
  have hprogress := ht.progress i _ hcall
  rw [Moment.traceOf_eq_deeds]
  generalize Moment.deedsOf env i h = ds at hprogress
  cases hprogress with
  | published hfan _ => exact hfan.wholeFanOut

/-- Calls that overlap in any order, are dropped anywhere and have log calls refused at any time
stay orderly; and the moments of a run tell of all that the outside is asked in its course. -/
theorem orderly_run (env : Surroundings α σ) (registry : Registry α)
    (hhonest : env.FeignsNoDuplicate) (notices : List Notice) (outside : σ) (moves : List Move) :
    let begun := start notices outside
    let h := begun.moments env registry moves
    Orderly env registry (begun.run env registry moves) h ∧
      (begun.beside []).run env.traced registry moves =
        (begun.run env registry moves).beside (h.flatMap (Moment.trace env registry)) := by
  intro begun h
  have ht : Tracked env registry (begun.run env registry moves) h :=
    tracked_run hhonest notices outside moves
  refine ⟨⟨found_iff_run moves, ?_, ?_, published_iff_run moves, ?_, ?_, ?_, ?_, ?_, ?_, ?_⟩, ?_⟩
  · intro before x after heq i e hcreates y hy j e' hcreates' hid
    obtain ⟨-, hfound, -⟩ := at_moment hhonest heq
    have hrow := (hfound e.id).mpr ⟨y, hy, j, e', hcreates', hid⟩
    rw [hcreates.find?_eq_none] at hrow
    simp at hrow
  · intro before x after heq i e hstarts
    obtain ⟨ht, hfound, -⟩ := at_moment hhonest heq
    exact (hfound e.id).mp (ht.isSome_find?_of_starts hstarts)
  · intro before x after heq i e hmarks
    exact (at_moment hhonest heq).1.wholeFanOut_of_marks hmarks
  · intro i call hcall hstage
    rw [Moment.traceOf_eq_deeds]
    exact (hstage ▸ ht.progress i call hcall).of_succeeded
  · intro i call f hcall hstage hduplicate
    obtain ⟨hidle, hpublished⟩ :=
      (hstage ▸ ht.progress i call hcall).of_duplicate hhonest hduplicate
    exact ⟨Moment.not_starts_of_deedsOf hidle, hpublished⟩
  · intro before x after heq
    constructor
    · intro hasked
      obtain ⟨i, id, published, hdeed⟩ := Moment.exists_answered hasked
      obtain ⟨e, hlearns, -⟩ := Moment.exists_learns registry hdeed
      exact ⟨i, e, published, hlearns⟩
    · intro i e published hlearns
      obtain ⟨-, -, hpublished⟩ := at_moment hhonest heq
      rw [← hpublished, hlearns.isPublished_eq]
  · intro i call hcall x hx e hlearns
    have hanswered := Moment.mem_deedsOf.mpr ⟨x, hx, hlearns.deed?_eq⟩
    obtain ⟨hended, hidle⟩ := (ht.progress i call hcall).of_answered_published hanswered
    exact ⟨hended, Moment.not_starts_of_deedsOf hidle⟩
  · intro i call r hcall hstage x hx e hlearns
    have hanswered := Moment.mem_deedsOf.mpr ⟨x, hx, hlearns.deed?_eq⟩
    rw [Moment.traceOf_eq_deeds]
    exact (hstage ▸ ht.progress i call hcall).of_answered_unpublished hanswered
  · intro i call f hcall hrefused
    rw [Moment.traceOf_eq_deeds] at hrefused
    obtain ⟨hended, hidle⟩ :=
      (ht.progress i call hcall).of_refused_lookup (Deed.refused_mem_of_log hrefused)
    exact ⟨hended, Moment.not_starts_of_deedsOf hidle⟩
  · have hrun : (begun.beside []).run env.traced registry moves = _ :=
      run_records env.traced_records begun moves []
    rw [List.filterMap_some] at hrun
    exact hrun

/-- An event, its redelivery that overlaps with it, and a third call after both: the first call is
dropped before its listener has a turn, and the second finds the database locked when it marks. -/
theorem orderly_redelivery :
    flakyLog.FeignsNoDuplicate ∧
      let e := Envelope.create "event-1" "message.phone.sent" "/v1/messages" none
      let registry := Registry.empty.subscribe "message.phone.sent" "webhook"
      let moves : List Move :=
        [.submit e, .advance 0, .advance 0, .submit e, .advance 1, .advance 1, .advance 1,
          .advance 0, .drop 0, .advance 1, .tell 1 0, .advance 1, .advance 1, .submit e,
          .advance 2, .advance 2, .advance 2, .advance 2, .advance 2, .advance 2, .advance 2]
      let begun : Dispatches String (List Bool) := start [] [false, false, false, true]
      let h := begun.moments flakyLog registry moves
      Orderly flakyLog registry (begun.run flakyLog registry moves) h ∧
        (turnsIn (h.flatMap (Moment.trace flakyLog registry))).map Turn.listener =
          ["webhook", "webhook"] := by
  refine ⟨flakyLog_feignsNoDuplicate, ?_⟩
  intro e registry moves begun h
  refine ⟨(orderly_run flakyLog registry flakyLog_feignsNoDuplicate _ _ moves).1, ?_⟩
  decide +kernel

end Dispatches

end SmsGateway
