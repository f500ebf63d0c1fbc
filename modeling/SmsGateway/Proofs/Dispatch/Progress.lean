import SmsGateway.Proofs.Dispatch.Trace
import SmsGateway.Proofs.Event.Rules

namespace SmsGateway

variable {α σ : Type}

/-- A refused log call never looks like a report of an id that is recorded already. -/
def Surroundings.FeignsNoDuplicate (env : Surroundings α σ) : Prop :=
  ∀ c f, env.Refuses c f → f.isDuplicate = false

/-- Surroundings whose state says which of the next log calls find the database locked. Every
listener handles every event. -/
def flakyLog : Surroundings String (List Bool) where
  refuse _ script :=
    (if script.headD false then some (.persistence "database is locked") else none, script.tail)
  name := id
  handle _ _ _ script := (some .handled, script)
  enqueue _ _ script := (.ok "task-1", script)

theorem flakyLog_feignsNoDuplicate : flakyLog.FeignsNoDuplicate := by
  rintro c f ⟨script, hrefuse⟩
  simp only [flakyLog] at hrefuse
  split at hrefuse
  · obtain rfl := Option.some.inj hrefuse
    rfl
  · simp at hrefuse

/-- A trace holds a fan-out of an event to all its listeners: each subscription had one turn, with
this event, and ended. -/
structure WholeFanOut (registry : Registry α) (e : Envelope) (trace : List (TraceEntry α)) :
    Prop where
  once : ((turnsIn trace).map Turn.listener).Perm (registry.listeners e.type)
  same_event : ∀ t ∈ turnsIn trace, t.event = e
  all_ended : ∀ t ∈ turnsIn trace, t.outcome.isSome

theorem WholeFanOut.of_turnsIn_eq {registry : Registry α} {e : Envelope}
    {trace trace' : List (TraceEntry α)} (h : WholeFanOut registry e trace)
    (hturns : turnsIn trace' = turnsIn trace) : WholeFanOut registry e trace' := by
  constructor
  all_goals rw [hturns]
  · exact h.once
  · exact h.same_event
  · exact h.all_ended

theorem WholeFanOut.append {registry : Registry α} {e : Envelope}
    {trace trace' : List (TraceEntry α)} (h : WholeFanOut registry e trace)
    (hnone : turnsIn trace' = []) : WholeFanOut registry e (trace ++ trace') := by
  apply h.of_turnsIn_eq
  rw [turnsIn_append, hnone, List.append_nil]

namespace Stage

/-- What a dispatch does before its fan-out: it records the event, or learns that the event is
recorded and not published. -/
def Opening (e : Envelope) (ds : List (Deed α)) : Prop :=
  ds = [.recorded e] ∨ ds = [.met e.id, .answered e.id false]

/-- What a dispatch has done during its fan-out while some listeners are waiting and some are
stuck. -/
def FanningOut (registry : Registry α) (e : Envelope) (ds : List (Deed α))
    (waiting stuck : List α) : Prop :=
  ∃ (opening : List (Deed α)) (turns : List (α × Option Outcome)),
    Opening e opening ∧ ds = opening ++ .begun e :: turns.map (fun x => .told x.1 e x.2) ∧
      (turns.map Prod.fst ++ waiting).Perm (registry.listeners e.type) ∧
        stuck = (turns.filter fun x => x.2.isNone).map Prod.fst

/-- What a dispatch has done, and what the log holds, at each stage. -/
inductive Progress (env : Surroundings α σ) (registry : Registry α) (e : Envelope)
    (log : EventLog) : List (Deed α) → Stage α → Prop where
  | received : Progress env registry e log [] .received
  | checked (hrules : e.validate = .ok ()) : Progress env registry e log [] .checked
  | taken (hfound : (log.find? e.id).isSome) :
      Progress env registry e log [.met e.id] (.taken (.duplicateEvent e.id))
  | recorded {ds : List (Deed α)} (hopening : Opening e ds) (hfound : (log.find? e.id).isSome) :
      Progress env registry e log ds .recorded
  | publishing {ds : List (Deed α)} {f : FanOut α}
      (hfan : FanningOut registry e ds f.waiting f.stuck) (hfound : (log.find? e.id).isSome) :
      Progress env registry e log ds (.publishing f)
  | published {ds : List (Deed α)} {summary : PublishSummary} (hfan : FanningOut registry e ds [] [])
      (hfound : (log.find? e.id).isSome) :
      Progress env registry e log ds (.published summary)
  | invalid {f : Failure} (hrules : e.validate = .error f) :
      Progress env registry e log [] (.ended (.error f))
  | unrecorded {f : Failure} (hrefuse : env.Refuses .create f) :
      Progress env registry e log [.refused .create f] (.ended (.error f))
  | duplicate (hpublished : log.isPublished e.id = true) :
      Progress env registry e log [.met e.id, .answered e.id true]
        (.ended (.error (.duplicateEvent e.id)))
  | unknown {f : Failure} (hrefuse : env.Refuses .isPublished f) :
      Progress env registry e log [.met e.id, .refused .isPublished f] (.ended (.error f))
  | unmarked {ds : List (Deed α)} {f : Failure} (hfan : FanningOut registry e ds [] [])
      (hrefuse : env.Refuses .markPublished f) :
      Progress env registry e log (ds ++ [.refused .markPublished f]) (.ended (.error f))
  | marked {ds : List (Deed α)} (hfan : FanningOut registry e ds [] [])
      (hpublished : log.isPublished e.id = true) :
      Progress env registry e log (ds ++ [.marked e.id]) (.ended (.ok ()))

variable {env : Surroundings α σ} {registry : Registry α} {e : Envelope} {ds : List (Deed α)}
  {s s' : Stage α} {log log' : EventLog}

theorem fanningOut_begin {opening : List (Deed α)} (hopening : Opening e opening) :
    FanningOut registry e (opening ++ [.begun e]) (registry.listeners e.type) [] :=
  ⟨opening, [], hopening, rfl, .refl _, rfl⟩

theorem FanningOut.told {waiting stuck rest : List α} {listener : α}
    (h : FanningOut registry e ds waiting stuck) (hwaiting : waiting.Perm (listener :: rest))
    (outcome : Option Outcome) :
    FanningOut registry e (ds ++ [.told listener e outcome]) rest
      (if outcome.isSome then stuck else stuck ++ [listener]) := by
  obtain ⟨opening, turns, hopening, rfl, hperm, rfl⟩ := h
  refine ⟨opening, turns ++ [(listener, outcome)], hopening, by simp, ?_, ?_⟩
  · refine List.Perm.trans ?_ hperm
    rw [List.map_append, List.append_assoc]
    exact hwaiting.symm.append_left _
  · cases outcome <;> simp

theorem Opening.turnsIn_eq_nil {opening : List (Deed α)} (h : Opening e opening) :
    turnsIn (opening.filterMap Deed.asked?) = [] := by
  rcases h with rfl | rfl <;> rfl

theorem entries_told (turns : List (α × Option Outcome)) :
    (turns.map fun x => Deed.told x.1 e x.2).filterMap Deed.asked? =
      (turns.map fun x => Turn.mk x.1 e x.2).map .turn := by
  induction turns with
  | nil => rfl
  | cons x turns ih => exact congrArg (_ :: ·) ih

theorem FanningOut.exists_turns (h : FanningOut registry e ds [] []) :
    ∃ (opening rest : List (Deed α)) (turns : List (Turn α)), Opening e opening ∧
      ds = opening ++ rest ∧ rest.filterMap Deed.asked? = turns.map .turn ∧
        WholeFanOut registry e (turns.map .turn) := by
  obtain ⟨opening, turns, hopening, rfl, hperm, hstuck⟩ := h
  have hentries : (Deed.begun e :: turns.map fun x => Deed.told x.1 e x.2).filterMap Deed.asked? =
      (turns.map fun x => Turn.mk x.1 e x.2).map .turn := entries_told turns
  refine ⟨opening, _, _, hopening, rfl, hentries, ?_⟩
  constructor
  all_goals rw [turnsIn_map_turn]
  · rw [List.append_nil] at hperm
    rwa [List.map_map]
  · intro t ht
    obtain ⟨x, -, rfl⟩ := List.mem_map.mp ht
    rfl
  · intro t ht
    obtain ⟨x, hx, rfl⟩ := List.mem_map.mp ht
    have hnone := List.map_eq_nil_iff.mp hstuck.symm
    rw [List.filter_eq_nil_iff] at hnone
    simpa [Option.isNone_iff_eq_none, Option.isSome_iff_ne_none] using hnone x hx

theorem FanningOut.wholeFanOut (h : FanningOut registry e ds [] []) :
    WholeFanOut registry e (ds.filterMap Deed.asked?) := by
  obtain ⟨opening, rest, turns, hopening, rfl, hrest, hwhole⟩ := h.exists_turns
  apply hwhole.of_turnsIn_eq
  rw [List.filterMap_append, turnsIn_append, hopening.turnsIn_eq_nil, hrest, List.nil_append]

theorem Progress.mono (h : Progress env registry e log ds s) (hgrows : log.GrowsInto log') :
    Progress env registry e log' ds s := by
  cases h with
  | received => exact .received
  | checked hrules => exact .checked hrules
  | taken hfound => exact .taken (hgrows.isSome_find? hfound)
  | recorded hopening hfound => exact .recorded hopening (hgrows.isSome_find? hfound)
  | publishing hfan hfound => exact .publishing hfan (hgrows.isSome_find? hfound)
  | published hfan hfound => exact .published hfan (hgrows.isSome_find? hfound)
  | invalid hrules => exact .invalid hrules
  | unrecorded hrefuse => exact .unrecorded hrefuse
  | duplicate hpublished => exact .duplicate (hgrows.isPublished hpublished)
  | unknown hrefuse => exact .unknown hrefuse
  | unmarked hfan hrefuse => exact .unmarked hfan hrefuse
  | marked hfan hpublished => exact .marked hfan (hgrows.isPublished hpublished)

/-- The event is recorded, and the dispatch has not ended. -/
def IsOpen : Stage α → Prop
  | .recorded | .publishing _ | .published _ => True
  | _ => False

theorem Step.isOpen_of_started {d : Deed α} {e' : Envelope}
    (h : Step env registry e s log (some d) s' log') (hstarted : d.started? = some e') :
    s.IsOpen ∧ e' = e := by
  cases h with
  | begin | tell _ | hang _ => exact ⟨trivial, (Option.some.inj hstarted).symm⟩
  | _ => simp [Deed.started?] at hstarted

theorem Progress.isSome_find?_of_isOpen (h : Progress env registry e log ds s) (hopen : s.IsOpen) :
    (log.find? e.id).isSome := by
  cases h with
  | recorded _ hfound | publishing _ hfound | published _ hfound => exact hfound
  | _ => exact absurd hopen id

/-- Every step of a dispatch keeps its progress. -/
theorem Progress.step (hhonest : env.FeignsNoDuplicate) (h : Progress env registry e log ds s)
    {d : Option (Deed α)} (hstep : Step env registry e s log d s' log') :
    Progress env registry e log' (ds ++ d.toList) s' := by
  cases hstep with
  | reject hrules =>
      cases h
      exact .invalid hrules
  | accept hrules =>
      cases h
      exact .checked hrules
  | refuseCreate hrefuse =>
      cases h
      rw [hhonest _ _ hrefuse]
      exact .unrecorded hrefuse
  | create hcreate =>
      cases h
      refine .recorded (.inl rfl) ?_
      rw [EventLog.find?_create hcreate, if_pos rfl]
      rfl
  | meet hfound =>
      cases h
      exact .taken hfound
  | refuseLookup hrefuse =>
      cases h
      exact .unknown hrefuse
  | lookupPublished hpublished =>
      cases h
      exact .duplicate hpublished
  | lookupUnpublished hunpublished =>
      cases h with
      | taken hfound => exact .recorded (.inr rfl) hfound
  | begin =>
      cases h with
      | recorded hopening hfound => exact .publishing (fanningOut_begin hopening) hfound
  | tell hwaiting =>
      cases h with
      | publishing hfan hfound => exact .publishing (hfan.told hwaiting _) hfound
  | hang hwaiting =>
      cases h with
      | publishing hfan hfound => exact .publishing (hfan.told hwaiting none) hfound
  | finish hwaiting hstuck =>
      cases h with
      | publishing hfan hfound =>
          rw [hwaiting, hstuck] at hfan
          simpa using Progress.published hfan hfound
  | refuseMark hrefuse =>
      cases h with
      | published hfan hfound => exact .unmarked hfan hrefuse
  | mark hmark =>
      cases h with
      | published hfan hfound =>
          refine .marked hfan ?_
          rw [EventLog.isPublished_markPublished hmark]
          simp
  | miss hmissing =>
      cases h with
      | published hfan hfound =>
          rw [hmissing] at hfound
          simp at hfound
  | stall hwaiting hstuck => simpa using h
  | rest => simpa using h

/-- What a deed tells of the dispatch that did it, and of what else was done. -/
inductive DeedOf (env : Surroundings α σ) (e : Envelope) (ds : List (Deed α)) (s : Stage α) :
    Deed α → Prop where
  | recorded : DeedOf env e ds s (.recorded e)
  | met : DeedOf env e ds s (.met e.id)
  | answeredUnpublished : DeedOf env e ds s (.answered e.id false)
  | answeredPublished (hds : ds = [.met e.id, .answered e.id true])
      (hended : s = .ended (.error (.duplicateEvent e.id))) :
      DeedOf env e ds s (.answered e.id true)
  | begun : DeedOf env e ds s (.begun e)
  | told {listener : α} {outcome : Option Outcome} : DeedOf env e ds s (.told listener e outcome)
  | unrecorded {f : Failure} (hds : ds = [.refused .create f]) (hrefuse : env.Refuses .create f)
      (hended : s = .ended (.error f)) : DeedOf env e ds s (.refused .create f)
  | unknown {f : Failure} (hds : ds = [.met e.id, .refused .isPublished f])
      (hrefuse : env.Refuses .isPublished f) (hended : s = .ended (.error f)) :
      DeedOf env e ds s (.refused .isPublished f)
  | unmarked {f : Failure} (hrefuse : env.Refuses .markPublished f)
      (hended : s = .ended (.error f)) : DeedOf env e ds s (.refused .markPublished f)
  | marked (hended : s = .ended (.ok ())) : DeedOf env e ds s (.marked e.id)

theorem Opening.deedOf {ds' : List (Deed α)} {d : Deed α} (h : Opening e ds') (hd : d ∈ ds') :
    DeedOf env e ds s d := by
  rcases h with rfl | rfl
  · rw [List.mem_singleton.mp hd]
    exact .recorded
  · simp at hd
    rcases hd with rfl | rfl
    · exact .met
    · exact .answeredUnpublished

theorem FanningOut.deedOf {ds' : List (Deed α)} {waiting stuck : List α} {d : Deed α}
    (h : FanningOut registry e ds' waiting stuck) (hd : d ∈ ds') : DeedOf env e ds s d := by
  obtain ⟨opening, turns, hopening, rfl, -, -⟩ := h
  rcases List.mem_append.mp hd with hd | hd
  · exact hopening.deedOf hd
  · rcases List.mem_cons.mp hd with rfl | hd
    · exact .begun
    · obtain ⟨x, -, rfl⟩ := List.mem_map.mp hd
      exact .told

theorem Progress.deedOf (h : Progress env registry e log ds s) {d : Deed α} (hd : d ∈ ds) :
    DeedOf env e ds s d := by
  cases h with
  | received | checked _ | invalid _ => simp at hd
  | taken _ =>
      rw [List.mem_singleton.mp hd]
      exact .met
  | recorded hopening _ => exact hopening.deedOf hd
  | publishing hfan _ | published hfan _ => exact hfan.deedOf hd
  | unrecorded hrefuse =>
      rw [List.mem_singleton.mp hd]
      exact .unrecorded rfl hrefuse rfl
  | duplicate _ =>
      simp at hd
      rcases hd with rfl | rfl
      · exact .met
      · exact .answeredPublished rfl rfl
  | unknown hrefuse =>
      simp at hd
      rcases hd with rfl | rfl
      · exact .met
      · exact .unknown rfl hrefuse rfl
  | unmarked hfan hrefuse =>
      rcases List.mem_append.mp hd with hd | hd
      · exact hfan.deedOf hd
      · rw [List.mem_singleton.mp hd]
        exact .unmarked hrefuse rfl
  | marked hfan _ =>
      rcases List.mem_append.mp hd with hd | hd
      · exact hfan.deedOf hd
      · rw [List.mem_singleton.mp hd]
        exact .marked rfl

theorem Progress.event_of_recorded (h : Progress env registry e log ds s) {e' : Envelope}
    (hrecorded : .recorded e' ∈ ds) : e' = e := by
  cases h.deedOf hrecorded with
  | recorded => rfl

theorem Progress.of_marked (h : Progress env registry e log ds s) {id : String}
    (hmarked : .marked id ∈ ds) : id = e.id ∧ s = .ended (.ok ()) := by
  cases h.deedOf hmarked with
  | marked hended => exact ⟨rfl, hended⟩

theorem Progress.of_refused (h : Progress env registry e log ds s) {c : LogCall} {f : Failure}
    (hrefused : .refused c f ∈ ds) : s = .ended (.error f) ∧ env.Refuses c f := by
  cases h.deedOf hrefused with
  | unrecorded _ hrefuse hended | unknown _ hrefuse hended | unmarked hrefuse hended =>
      exact ⟨hended, hrefuse⟩

theorem Progress.eq_of_refused_create (h : Progress env registry e log ds s) {f : Failure}
    (hrefused : .refused .create f ∈ ds) : ds = [.refused .create f] := by
  cases h.deedOf hrefused with
  | unrecorded hds _ _ => exact hds

theorem Progress.eq_of_refused_lookup (h : Progress env registry e log ds s) {f : Failure}
    (hrefused : .refused .isPublished f ∈ ds) : ds = [.met e.id, .refused .isPublished f] := by
  cases h.deedOf hrefused with
  | unknown hds _ _ => exact hds

theorem Progress.of_succeeded (h : Progress env registry e log ds (.ended (.ok ()))) :
    WholeFanOut registry e (ds.filterMap Deed.asked?) ∧ log.isPublished e.id = true := by
  cases h with
  | marked hfan hpublished =>
      rw [List.filterMap_append]
      exact ⟨hfan.wholeFanOut.append rfl, hpublished⟩

theorem Progress.eq_of_duplicate (hhonest : env.FeignsNoDuplicate) {f : Failure}
    (hduplicate : f.isDuplicate = true)
    (h : Progress env registry e log ds (.ended (.error f))) :
    ds = [.met e.id, .answered e.id true] ∧ log.isPublished e.id = true := by
  cases h with
  | invalid hrules =>
      rw [(Envelope.isBrokenRule_of_validate hrules).2] at hduplicate
      simp at hduplicate
  | unrecorded hrefuse | unknown hrefuse | unmarked _ hrefuse =>
      rw [hhonest _ _ hrefuse] at hduplicate
      simp at hduplicate
  | duplicate hpublished => exact ⟨rfl, hpublished⟩

theorem Progress.eq_of_answered_published (h : Progress env registry e log ds s) {id : String}
    (hanswered : .answered id true ∈ ds) :
    ds = [.met e.id, .answered e.id true] ∧ s = .ended (.error (.duplicateEvent e.id)) := by
  cases h.deedOf hanswered with
  | answeredPublished hds hended => exact ⟨hds, hended⟩

theorem Progress.of_answered_published (h : Progress env registry e log ds s) {id : String}
    (hanswered : .answered id true ∈ ds) :
    s = .ended (.error (.duplicateEvent e.id)) ∧ ∀ d ∈ ds, d.started? = none := by
  obtain ⟨rfl, rfl⟩ := h.eq_of_answered_published hanswered
  refine ⟨rfl, ?_⟩
  intro d hd
  simp at hd
  rcases hd with rfl | rfl <;> rfl

theorem Progress.of_duplicate (hhonest : env.FeignsNoDuplicate) {f : Failure}
    (hduplicate : f.isDuplicate = true)
    (h : Progress env registry e log ds (.ended (.error f))) :
    (∀ d ∈ ds, d.started? = none) ∧ log.isPublished e.id = true := by
  obtain ⟨hds, hpublished⟩ := h.eq_of_duplicate hhonest hduplicate
  have hanswered : .answered e.id true ∈ ds := by
    rw [hds]
    exact List.mem_cons_of_mem _ List.mem_cons_self
  exact ⟨(h.of_answered_published hanswered).2, hpublished⟩

theorem Progress.of_answered_unpublished {r : Except Failure Unit}
    (h : Progress env registry e log ds (.ended r)) {id : String}
    (hanswered : .answered id false ∈ ds) : WholeFanOut registry e (ds.filterMap Deed.asked?) := by
  cases h with
  | unmarked hfan _ | marked hfan _ =>
      rw [List.filterMap_append]
      exact hfan.wholeFanOut.append rfl
  | _ => simp at hanswered

theorem Progress.of_refused_lookup (h : Progress env registry e log ds s) {f : Failure}
    (hrefused : .refused .isPublished f ∈ ds) :
    s = .ended (.error f) ∧ ∀ d ∈ ds, d.started? = none := by
  refine ⟨(h.of_refused hrefused).1, ?_⟩
  rw [h.eq_of_refused_lookup hrefused]
  intro d hd
  simp at hd
  rcases hd with rfl | rfl <;> rfl

end Stage

end SmsGateway
