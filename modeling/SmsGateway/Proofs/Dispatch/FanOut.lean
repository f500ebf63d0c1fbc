import SmsGateway.Proofs.Dispatch.Unheard
import SmsGateway.Proofs.NameTable

/-!
The account of a fan-out. Whichever order the listeners of an event end in, each of them has one
turn; what is counted and what is noted adds up from the turns, and does not depend on their order.
-/

namespace SmsGateway

variable {α σ σ' : Type}

namespace Registry

/-- The registry of some subscriptions, made one after the other. -/
def ofSubscriptions (subscriptions : List (String × α)) : Registry α :=
  subscriptions.foldl (fun r s => r.subscribe s.1 s.2) .empty

theorem listeners_subscribe (r : Registry α) (type other : String) (listener : α) :
    (r.subscribe type listener).listeners other =
      r.listeners other ++ if type = other then [listener] else [] := by
  rw [subscribe, listeners, NameTable.find?, NameTable.lookup_insert]
  by_cases h : other = type
  · rw [if_pos h, if_pos h.symm, h]
    rfl
  · rw [if_neg h, if_neg (Ne.symm h), List.append_nil]
    rfl

theorem listeners_foldl_subscribe (subscriptions : List (String × α)) (r : Registry α)
    (type : String) :
    (subscriptions.foldl (fun r s => r.subscribe s.1 s.2) r).listeners type =
      r.listeners type ++ (subscriptions.filter fun s => s.1 = type).map Prod.snd := by
  induction subscriptions generalizing r with
  | nil => exact (List.append_nil _).symm
  | cons s subscriptions ih =>
      rw [List.foldl_cons, ih, listeners_subscribe, List.append_assoc]
      by_cases h : s.1 = type <;> simp [h]

theorem listeners_ofSubscriptions (subscriptions : List (String × α)) (type : String) :
    (ofSubscriptions subscriptions).listeners type =
      (subscriptions.filter fun s => s.1 = type).map Prod.snd :=
  listeners_foldl_subscribe subscriptions .empty type

end Registry

namespace Outcome

/-- The code of a failure that a notice tells along with the listener's name. -/
def code? : Outcome → Option String
  | .failed _ => some "LSN_001"
  | .panicked => some "LSN_002"
  | .handled | .lost => none

/-- A notice of a listener that failed to handle an event. -/
structure IsToldBy (e : Envelope) (name : String) (o : Outcome) (n : Notice) : Prop where
  level : n.level = .error
  type : NameTable.find? n.fields "event_type" = some e.type
  id : NameTable.find? n.fields "event_id" = some e.id
  named : ∀ code ∈ o.code?, NameTable.find? n.fields "listener" = some name ∧
    NameTable.find? n.fields "code" = some code

theorem isToldBy_of_failure (e : Envelope) (name : String) {o : Outcome} (message : String)
    {f : Failure} (hcode : ∀ code ∈ o.code?, code = f.code.text) :
    o.IsToldBy e name (.of .error message (failureFields e name f)) := by
  have hnodup : ((failureFields e name f).map (·.1)).Nodup := by
    change ["listener", "code", "error", "event_id", "event_type"].Nodup
    decide
  have hfind (field : String) : NameTable.find? (NameTable.ofEntries (failureFields e name f)) field =
      (failureFields e name f).lookup field := NameTable.lookup_ofEntries hnodup field
  constructor
  · rfl
  · dsimp only [Notice.of]
    rw [hfind]
    rfl
  · dsimp only [Notice.of]
    rw [hfind]
    rfl
  · intro code h
    dsimp only [Notice.of]
    rw [hcode code h, hfind, hfind]
    exact ⟨rfl, rfl⟩

theorem notices_of_ne_handled (e : Envelope) (name : String) {o : Outcome} (h : o ≠ .handled) :
    ∃ n, o.notices e name = [n] ∧ o.IsToldBy e name n := by
  cases o with
  | handled => exact absurd rfl h
  | failed reason =>
      refine ⟨_, rfl, isToldBy_of_failure e name _ ?_⟩
      rintro code ⟨⟩
      rfl
  | panicked =>
      refine ⟨_, rfl, isToldBy_of_failure e name _ ?_⟩
      rintro code ⟨⟩
      rfl
  | lost =>
      have hnodup : ((eventFields e).map (·.1)).Nodup := by
        change ["event_id", "event_type"].Nodup
        decide
      refine ⟨_, rfl, rfl, ?_, ?_, by simp [code?]⟩
      · exact NameTable.lookup_ofEntries hnodup _
      · exact NameTable.lookup_ofEntries hnodup _

end Outcome

/-- The world after a listener's turn that ended in a given way. -/
def World.turned (env : Surroundings α σ) (e : Envelope) (w : World σ) (x : α × Outcome) :
    World σ :=
  { w with outside := (env.handle x.1 e w.log w.outside).2 }.note (x.2.notices e (env.name x.1))

/-- Listeners that have their turns in this order end in these ways. -/
def Surroundings.Yields (env : Surroundings α σ) (e : Envelope) :
    World σ → List (α × Outcome) → Prop
  | _, [] => True
  | w, x :: turns =>
      (env.handle x.1 e w.log w.outside).1 = some x.2 ∧ env.Yields e (w.turned env e x) turns

def noticesOf (env : Surroundings α σ) (e : Envelope) (turns : List (α × Outcome)) : List Notice :=
  turns.flatMap fun x => x.2.notices e (env.name x.1)

def failures (turns : List (α × Outcome)) : List (α × Outcome) :=
  turns.filter fun x => x.2 ≠ .handled

def toldAt (e : Envelope) (x : α × Outcome) : Deed α :=
  .told x.1 e (some x.2)

/-- Surroundings in which the listeners end one after the other as a script has it. -/
def Surroundings.scripted (name : α → String) : Surroundings α (List Outcome) where
  refuse _ script := (none, script)
  name := name
  handle _ _ _ script := (some (script.headD .handled), script.tail)
  enqueue _ _ script := (.ok "", script)

section Turns

variable {env : Surroundings α σ} {e : Envelope}

theorem foldl_countIn (turns : List (α × Outcome)) (s : PublishSummary) :
    turns.foldl (fun s x => x.2.countIn s) s = ⟨s.invoked, s.failed + (failures turns).length⟩ := by
  induction turns generalizing s with
  | nil => rfl
  | cons x turns ih =>
      rw [List.foldl_cons, ih, failures, failures, List.filter_cons]
      rcases x with ⟨listener, _ | reason | _ | _⟩
      · rfl
      all_goals simp [Outcome.countIn, Nat.add_assoc, Nat.add_comm 1]

theorem log_foldl_turned (turns : List (α × Outcome)) (w : World σ) :
    (turns.foldl (World.turned env e) w).log = w.log := by
  induction turns generalizing w with
  | nil => rfl
  | cons x turns ih => exact ih (w.turned env e x)

theorem notices_foldl_turned (turns : List (α × Outcome)) (w : World σ) :
    (turns.foldl (World.turned env e) w).notices = w.notices ++ noticesOf env e turns := by
  induction turns generalizing w with
  | nil => exact (List.append_nil _).symm
  | cons x turns ih =>
      rw [List.foldl_cons, ih, noticesOf, noticesOf, List.flatMap_cons, ← List.append_assoc]
      rfl

theorem forall₂_noticesOf (turns : List (α × Outcome)) :
    List.Forall₂ (fun x n => x.2.IsToldBy e (env.name x.1) n) (failures turns)
      (noticesOf env e turns) := by
  induction turns with
  | nil => exact .nil
  | cons x turns ih =>
      rw [failures, noticesOf, List.flatMap_cons]
      by_cases h : x.2 = .handled
      · rw [List.filter_cons_of_neg (by simpa using h), h]
        exact ih
      · obtain ⟨n, hnotices, htold⟩ := x.2.notices_of_ne_handled e (env.name x.1) h
        rw [List.filter_cons_of_pos (by simpa using h), hnotices]
        exact .cons htold ih

theorem yields_congr {turns : List (α × Outcome)} {w v : World σ} (hlog : v.log = w.log)
    (houtside : v.outside = w.outside) (h : env.Yields e w turns) : env.Yields e v turns := by
  induction turns generalizing w v with
  | nil => trivial
  | cons x turns ih =>
      obtain ⟨hends, hrest⟩ := h
      have hturn : env.handle x.1 e v.log v.outside = env.handle x.1 e w.log w.outside := by
        rw [hlog, houtside]
      have hlog' : (v.turned env e x).log = (w.turned env e x).log := hlog
      have houtside' : (v.turned env e x).outside = (w.turned env e x).outside :=
        congrArg Prod.snd hturn
      exact ⟨by rw [hturn, hends], ih hlog' houtside' hrest⟩

theorem yields_scripted (name : α → String) {turns : List (α × Outcome)} {w : World (List Outcome)}
    (h : w.outside = turns.map Prod.snd) : (Surroundings.scripted name).Yields e w turns := by
  induction turns generalizing w with
  | nil => trivial
  | cons x turns ih =>
      refine ⟨?_, ih ?_⟩
      · change some (w.outside.headD .handled) = some x.2
        rw [h]
        rfl
      · change w.outside.tail = turns.map Prod.snd
        rw [h]
        rfl

theorem yields_observed (env : Surroundings α σ) (e : Envelope) (turns : List (α × Outcome))
    (w : World σ) (calls : List (OutsideCall α)) :
    (env.observed.Yields e (w.observed calls) turns ↔ env.Yields e w turns) ∧
      turns.foldl (World.turned env.observed e) (w.observed calls) =
        (turns.foldl (World.turned env e) w).observed (calls ++ turns.map (.told ·.1 e)) := by
  induction turns generalizing w calls with
  | nil => exact ⟨Iff.rfl, by simp⟩
  | cons x turns ih =>
      obtain ⟨hyields, hworld⟩ := ih (w.turned env e x) (calls ++ [.told x.1 e])
      refine ⟨and_congr Iff.rfl hyields, ?_⟩
      rw [List.map_cons, List.append_cons]
      exact hworld

end Turns

namespace Stage

variable {env : Surroundings α σ} {registry : Registry α} {e : Envelope} {f : FanOut α}
  {turns : List (α × Outcome)} {summary : PublishSummary} {ds : List (Deed α)} {w w' : World σ}

/-- A fan-out that has begun goes to its end with these turns. -/
structure PlaysOut (env : Surroundings α σ) (e : Envelope) (f : FanOut α) (w : World σ)
    (turns : List (α × Outcome)) (summary : PublishSummary) (w' : World σ) : Prop where
  stuck : f.stuck = []
  once : (turns.map Prod.fst).Perm f.waiting
  yields : env.Yields e w turns
  summary : summary = turns.foldl (fun s x => x.2.countIn s) f.summary
  world : w' = turns.foldl (World.turned env e) w

theorem tell_of_ends {listener : α} {rest : List α} {o : Outcome}
    (h : (env.handle listener e w.log w.outside).1 = some o) :
    tell env e f listener rest w =
      (.publishing { f with waiting := rest, summary := o.countIn f.summary },
        w.turned env e (listener, o)) := by
  rw [tell, World.turned]
  rcases hhandle : env.handle listener e w.log w.outside with ⟨outcome, outside⟩
  rw [hhandle] at h
  obtain rfl : outcome = some o := h
  rfl

theorem PlaysOut.course (h : PlaysOut env e f w turns summary w') :
    Course env registry e (.publishing f) w (turns.map (toldAt e)) (.published summary) w' := by
  obtain ⟨hstuck, honce, hyields, rfl, rfl⟩ := h
  induction turns generalizing f w with
  | nil =>
      obtain ⟨waiting, stuck, s⟩ := f
      obtain rfl : waiting = [] := List.nil_perm.mp honce
      obtain rfl : stuck = [] := hstuck
      exact .advance .done
  | cons x turns ih =>
      obtain ⟨hends, hyields⟩ := hyields
      have hmem : x.1 ∈ f.waiting := honce.mem_iff.mp List.mem_cons_self
      obtain ⟨i, hi, hlistener⟩ := List.mem_iff_getElem.mp hmem
      have hrest : (turns.map Prod.fst).Perm (f.waiting.eraseIdx i) := by
        have hcons := honce.trans (List.getElem_cons_eraseIdx_perm hi).symm
        rw [hlistener] at hcons
        exact hcons.cons_inv
      have hfirst : Course env registry e (.publishing f) w
          (.told x.1 e (env.handle x.1 e w.log w.outside).1 :: turns.map (toldAt e))
          (.published ((x :: turns).foldl (fun s x => x.2.countIn s) f.summary))
          ((x :: turns).foldl (World.turned env e) w) := by
        refine .tell (List.getElem?_eq_some_iff.mpr ⟨hi, hlistener⟩) ?_
        rw [tell_of_ends hends]
        exact ih hstuck hrest hyields
      rw [hends] at hfirst
      exact hfirst

theorem Course.ended_of_ended {r : Except Failure Unit} {s : Stage α}
    (h : Course env registry e (.ended r) w ds s w') : s = .ended r := by
  generalize hfirst : Stage.ended r = first at h
  induction h with
  | done => rfl
  | advance hrest ih =>
      subst hfirst
      exact ih rfl
  | tell hlistener hrest ih => exact absurd hfirst (by simp)

theorem Course.eq_of_published {s : PublishSummary}
    (h : Course env registry e (.published s) w ds (.published summary) w') :
    summary = s ∧ ds = [] ∧ w' = w := by
  cases h with
  | done => exact ⟨rfl, rfl, rfl⟩
  | advance hrest =>
      obtain ⟨r, hr⟩ : ∃ r, (Stage.advance env registry e (.published s) w).1 = .ended r := by
        change ∃ r, (afterMark (w.markPublished env e.id).1 : Stage α × _).1 = .ended r
        cases (w.markPublished env e.id).1 with
        | ok _ => exact ⟨_, rfl⟩
        | error f => exact ⟨_, rfl⟩
      rw [hr] at hrest
      exact absurd hrest.ended_of_ended (by simp)

theorem exists_playsOut_of_tell {listener : α} {rest : List α}
    (hwaiting : f.waiting.Perm (listener :: rest))
    (h : ∀ f', (tell env e f listener rest w).1 = .publishing f' →
      ∃ turns, PlaysOut env e f' (tell env e f listener rest w).2 turns summary w' ∧
        ds = turns.map (toldAt e)) :
    ∃ turns, PlaysOut env e f w turns summary w' ∧
      .told listener e (env.handle listener e w.log w.outside).1 :: ds = turns.map (toldAt e) := by
  rcases hends : (env.handle listener e w.log w.outside).1 with _ | o
  · have hstuck : (tell env e f listener rest w).1 =
        .publishing { f with waiting := rest, stuck := f.stuck ++ [listener] } := by
      rw [tell]
      dsimp only
      rw [hends]
    obtain ⟨turns, hplays, -⟩ := h _ hstuck
    exact absurd hplays.stuck (by simp)
  · rw [tell_of_ends hends] at h
    obtain ⟨turns, ⟨hstuck, honce, hyields, hsummary, hworld⟩, rfl⟩ := h _ rfl
    exact ⟨(listener, o) :: turns, ⟨hstuck, (honce.cons listener).trans hwaiting.symm,
      ⟨hends, hyields⟩, hsummary, hworld⟩, rfl⟩

/-- There are no other ways through the fan-out: no listener can be left out or asked twice. -/
theorem Course.exists_playsOut
    (h : Course env registry e (.publishing f) w ds (.published summary) w') :
    ∃ turns, PlaysOut env e f w turns summary w' ∧ ds = turns.map (toldAt e) := by
  -- The induction is on the way. A listener that gets stuck stays so, and then the way cannot end
  -- as it does; so every turn on it comes to an end.
  generalize hfirst : Stage.publishing f = first at h
  generalize hlast : Stage.published summary = last at h
  induction h generalizing f with
  | done =>
      subst hfirst
      exact absurd hlast (by simp)
  | @advance s s' w w' ds hrest ih =>
      subst hfirst hlast
      obtain ⟨waiting, stuck, s⟩ := f
      cases waiting with
      | cons listener rest =>
          apply exists_playsOut_of_tell (.refl _)
          intro f' hf'
          exact ih hf'.symm rfl
      | nil =>
          cases stuck with
          | nil =>
              obtain ⟨rfl, rfl, rfl⟩ := hrest.eq_of_published
              exact ⟨[], ⟨rfl, .refl _, trivial, rfl, rfl⟩, rfl⟩
          | cons other others => exact ih rfl rfl
  | @tell f' s' w w' ds i listener hlistener hrest ih =>
      obtain rfl := Stage.publishing.inj hfirst
      obtain ⟨hi, rfl⟩ := List.getElem?_eq_some_iff.mp hlistener
      apply exists_playsOut_of_tell (List.getElem_cons_eraseIdx_perm hi).symm
      intro f' hf'
      exact ih hf'.symm hlast

def opening (registry : Registry α) (e : Envelope) : FanOut α :=
  ⟨registry.listeners e.type, [], ⟨(registry.listeners e.type).length, 0⟩⟩

def openingNotices (registry : Registry α) (e : Envelope) : List Notice :=
  if (registry.listeners e.type).isEmpty then
    [.of .info "no listener is configured for event type" [("event_type", e.type)]]
  else []

/-- The way from a recorded event to a published one on which the listeners have these turns. -/
def FansOut (env : Surroundings α σ) (registry : Registry α) (e : Envelope) (w : World σ)
    (turns : List (α × Outcome)) (summary : PublishSummary) (w' : World σ) : Prop :=
  Course env registry e .recorded w (.begun e :: turns.map (toldAt e)) (.published summary) w'

theorem PlaysOut.fansOut
    (h : PlaysOut env e (opening registry e) (w.note (openingNotices registry e)) turns summary w') :
    FansOut env registry e w turns summary w' :=
  .advance h.course

theorem Course.exists_fansOut (h : Course env registry e .recorded w ds (.published summary) w') :
    ∃ turns, ds = .begun e :: turns.map (toldAt e) ∧
      PlaysOut env e (opening registry e) (w.note (openingNotices registry e)) turns summary w' := by
  cases h with
  | advance hrest =>
      obtain ⟨turns, hplays, rfl⟩ := Course.exists_playsOut hrest
      exact ⟨turns, rfl, hplays⟩

theorem toldAt_injective : Function.Injective (toldAt e : α × Outcome → Deed α) := by
  rintro ⟨listener, o⟩ ⟨listener', o'⟩ h
  obtain ⟨hlistener, -, ho⟩ := Deed.told.inj h
  exact Prod.ext hlistener (Option.some.inj ho)

theorem FansOut.playsOut (h : FansOut env registry e w turns summary w') :
    PlaysOut env e (opening registry e) (w.note (openingNotices registry e)) turns summary w' := by
  obtain ⟨turns', hturns, hplays⟩ := Course.exists_fansOut h
  obtain rfl := toldAt_injective.list_map (List.cons.inj hturns).2
  exact hplays

theorem FansOut.summary_eq (h : FansOut env registry e w turns summary w') :
    summary = ⟨turns.length, (failures turns).length⟩ := by
  have hlength := h.playsOut.once.length_eq
  rw [List.length_map] at hlength
  rw [h.playsOut.summary, foldl_countIn, hlength, opening, Nat.zero_add]

theorem FansOut.notices_eq (h : FansOut env registry e w turns summary w') :
    w'.notices = w.notices ++ (openingNotices registry e ++ noticesOf env e turns) := by
  rw [h.playsOut.world, notices_foldl_turned, ← List.append_assoc]
  rfl

theorem FansOut.observed (h : FansOut env registry e w turns summary w')
    (calls : List (OutsideCall α)) :
    FansOut env.observed registry e (w.observed calls) turns summary
      (w'.observed (calls ++ turns.map (.told ·.1 e))) := by
  obtain ⟨hstuck, honce, hyields, hsummary, rfl⟩ := h.playsOut
  obtain ⟨hobserved, hworld⟩ :=
    yields_observed env e turns (w.note (openingNotices registry e)) calls
  exact PlaysOut.fansOut ⟨hstuck, honce, hobserved.mpr hyields, hsummary, hworld.symm⟩

/-- What a fan-out to some listeners comes to, by the turns that they have. An observer sees them
called and nobody else. -/
structure Accounted (env : Surroundings α σ) (registry : Registry α) (e : Envelope)
    (listeners : List α) (w : World σ) (turns : List (α × Outcome)) (summary : PublishSummary)
    (w' : World σ) : Prop where
  once : (turns.map Prod.fst).Perm listeners
  calls : FansOut env.observed registry e (w.observed []) turns summary
    (w'.observed (turns.map (.told ·.1 e)))
  summary : summary = ⟨listeners.length, (failures turns).length⟩
  log : w'.log = w.log
  notices : ∃ noted, w'.notices = w.notices ++ noted ∧
    (listeners = [] → noted =
      [.of .info "no listener is configured for event type" [("event_type", e.type)]]) ∧
    (listeners ≠ [] →
      List.Forall₂ (fun x n => x.2.IsToldBy e (env.name x.1) n) (failures turns) noted)

theorem FansOut.accounted (h : FansOut env registry e w turns summary w') :
    Accounted env registry e (registry.listeners e.type) w turns summary w' := by
  have honce : (turns.map Prod.fst).Perm (registry.listeners e.type) := h.playsOut.once
  have hlength : turns.length = (registry.listeners e.type).length := by
    rw [← honce.length_eq, List.length_map]
  refine ⟨honce, h.observed [], ?_, ?_, _, h.notices_eq, ?_, ?_⟩
  · rw [h.summary_eq, hlength]
  · rw [h.playsOut.world, log_foldl_turned]
    rfl
  · intro hnobody
    rw [hnobody, List.length_nil, List.length_eq_zero_iff] at hlength
    rw [openingNotices, hnobody, hlength]
    rfl
  · intro hsomebody
    rw [openingNotices, if_neg (by simpa using hsomebody), List.nil_append]
    exact forall₂_noticesOf turns

theorem FansOut.perm {env' : Surroundings α σ'} {turns' : List (α × Outcome)}
    {summary' : PublishSummary} {v v' : World σ'} (h : FansOut env registry e w turns summary w')
    (h' : FansOut env' registry e v turns' summary' v') (hname : env'.name = env.name)
    (hperm : turns'.Perm turns) :
    summary' = summary ∧
      (v'.notices.drop v.notices.length).Perm (w'.notices.drop w.notices.length) := by
  constructor
  · rw [h'.summary_eq, h.summary_eq, hperm.length_eq, failures, (hperm.filter _).length_eq]
    rfl
  · rw [h'.notices_eq, h.notices_eq, List.drop_left, List.drop_left, noticesOf, noticesOf, hname]
    exact (hperm.flatMap_right _).append_left _

theorem exists_published_run (hstuck : f.stuck = [])
    (hcomplete : ∀ listener ∈ f.waiting, ∀ log o, (env.handle listener e log o).1.isSome)
    (w : World σ) :
    ∃ summary, (run env registry e (f.waiting.length + 1) (.publishing f) w).1 =
      .published summary := by
  obtain ⟨waiting, stuck, s⟩ := f
  obtain rfl : stuck = [] := hstuck
  induction waiting generalizing s w with
  | nil => exact ⟨s, rfl⟩
  | cons listener rest ih =>
      obtain ⟨hfirst, hrest⟩ := List.forall_mem_cons.mp hcomplete
      obtain ⟨o, ho⟩ := Option.isSome_iff_exists.mp (hfirst w.log w.outside)
      have hstep : advance env registry e (.publishing ⟨listener :: rest, [], s⟩) w =
          (.publishing ⟨rest, [], o.countIn s⟩, w.turned env e (listener, o)) := tell_of_ends ho
      rw [List.length_cons, run_succ, hstep]
      exact ih _ _ hrest

end Stage

namespace Dispatcher

variable {d : Dispatcher α} {env : Surroundings α σ} {e : Envelope}

theorem publish_fansOut (hcomplete : env.CompletesAll d.registry e) (w : World σ) :
    ∃ turns summary, (d.publish env e w).1 = some summary ∧
      Stage.FansOut env d.registry e w turns summary (d.publish env e w).2 := by
  obtain ⟨summary, hend⟩ : ∃ summary,
      (Stage.run env d.registry e (d.stepsToPublish e) .recorded w).1 = .published summary :=
    Stage.exists_published_run (f := Stage.opening d.registry e) rfl hcomplete _
  have hcourse : Stage.Course env d.registry e .recorded w _ _ _ :=
    Stage.course_run (d.stepsToPublish e) .recorded w
  rw [hend] at hcourse
  obtain ⟨turns, hdeeds, hplays⟩ := hcourse.exists_fansOut
  refine ⟨turns, summary, ?_⟩
  rw [publish]
  rcases hrun : Stage.run env d.registry e (d.stepsToPublish e) .recorded w with ⟨s, w'⟩
  rw [hrun] at hend hplays
  obtain rfl : s = .published summary := hend
  exact ⟨rfl, hplays.fansOut⟩

/-- Every fan-out is accounted for, whatever the subscriptions, however the listeners end and in
whichever order. Each subscription to the event's type has one turn, and nobody else gets the event;
the turns and the failures among them are counted, each failure is noted once, and nothing else is
noted but that nobody is subscribed. The order makes no difference. -/
theorem fan_out_is_accounted_for (subscriptions : List (String × α)) (endpoint key : String)
    (env : Surroundings α σ) (e : Envelope) (w : World σ) :
    let d : Dispatcher α := ⟨endpoint, key, .ofSubscriptions subscriptions⟩
    let subscribed := (subscriptions.filter fun s => s.1 = e.type).map Prod.snd
    (∀ turns : List (α × Outcome), (turns.map Prod.fst).Perm subscribed → env.Yields e w turns →
      ∃ summary w', Stage.FansOut env d.registry e w turns summary w') ∧
    (∀ ds summary w', Stage.Course env d.registry e .recorded w ds (.published summary) w' →
      ∃ turns : List (α × Outcome), ds = .begun e :: turns.map (toldAt e)) ∧
    ((∀ listener ∈ subscribed, ∀ log o, (env.handle listener e log o).1.isSome) →
      ∃ turns summary, (d.publish env e w).1 = some summary ∧
        Stage.FansOut env d.registry e w turns summary (d.publish env e w).2) ∧
    ∀ turns summary w', Stage.FansOut env d.registry e w turns summary w' →
      Stage.Accounted env d.registry e subscribed w turns summary w' ∧
      ∀ (σ' : Type) (env' : Surroundings α σ') (v v' : World σ') turns' summary',
        env'.name = env.name → turns'.Perm turns →
          Stage.FansOut env' d.registry e v turns' summary' v' →
            summary' = summary ∧
              (v'.notices.drop v.notices.length).Perm (w'.notices.drop w.notices.length) := by
  intro d subscribed
  have hlisteners : d.registry.listeners e.type = subscribed :=
    Registry.listeners_ofSubscriptions subscriptions e.type
  refine ⟨?_, ?_, ?_, ?_⟩
  · intro turns honce hyields
    rw [← hlisteners] at honce
    have hnoted : env.Yields e (w.note (Stage.openingNotices d.registry e)) turns := by
      refine yields_congr ?_ ?_ hyields
      · rfl
      · rfl
    exact ⟨_, _, Stage.PlaysOut.fansOut ⟨rfl, honce, hnoted, rfl, rfl⟩⟩
  · intro ds summary w' hcourse
    obtain ⟨turns, hdeeds, -⟩ := hcourse.exists_fansOut
    exact ⟨turns, hdeeds⟩
  · intro hcomplete
    apply publish_fansOut
    intro listener hlistener
    rw [hlisteners] at hlistener
    exact hcomplete listener hlistener
  · intro turns summary w' hfan
    constructor
    · rw [← hlisteners]
      exact hfan.accounted
    · intro σ' env' v v' turns' summary' hname hperm hfan'
      exact hfan.perm hfan' hname hperm

/-- One listener is subscribed twice and ends in two ways, another one ends well, and one is lost;
once they end in this order, and once the other way round. -/
theorem fan_out_is_accounted_for_disorder :
    let subscriptions := [("message.phone.sent", "webhook"), ("message.phone.failed", "pager"),
      ("message.phone.sent", "audit"), ("message.phone.sent", "webhook"),
      ("message.phone.sent", "stats")]
    let d : Dispatcher String := ⟨"", "secret", .ofSubscriptions subscriptions⟩
    let e := Envelope.create "event-1" "message.phone.sent" "/v1/messages" none
    let env : Surroundings String (List Outcome) := .scripted id
    let turns : List (String × Outcome) :=
      [("stats", .lost), ("webhook", .failed "timeout"), ("audit", .handled), ("webhook", .panicked)]
    let world (turns : List (String × Outcome)) : World (List Outcome) :=
      ⟨.empty, [], turns.map Prod.snd⟩
    (turns.map Prod.fst).Perm ((subscriptions.filter fun s => s.1 = e.type).map Prod.snd) ∧
      (∀ turns, env.Yields e (world turns) turns) ∧
      ∃ w' v', Stage.FansOut env d.registry e (world turns) turns ⟨4, 3⟩ w' ∧
        Stage.FansOut env d.registry e (world turns.reverse) turns.reverse ⟨4, 3⟩ v' ∧
        v'.notices.Perm w'.notices ∧ w'.notices.length = 3 := by
  intro subscriptions d e env turns world
  have honce : (turns.map Prod.fst).Perm
      ((subscriptions.filter fun s => s.1 = e.type).map Prod.snd) := by decide
  have honce' : (turns.reverse.map Prod.fst).Perm
      ((subscriptions.filter fun s => s.1 = e.type).map Prod.snd) := by decide
  have hyields : ∀ turns, env.Yields e (world turns) turns := fun _ => yields_scripted id rfl
  obtain ⟨hall, -, -, haccount⟩ :=
    fan_out_is_accounted_for subscriptions "" "secret" env e (world turns)
  obtain ⟨hall', -, -, -⟩ :=
    fan_out_is_accounted_for subscriptions "" "secret" env e (world turns.reverse)
  obtain ⟨summary, w', hfan⟩ := hall turns honce (hyields turns)
  obtain ⟨summary', v', hfan'⟩ := hall' turns.reverse honce' (hyields turns.reverse)
  obtain ⟨⟨-, -, hsummary, -, noted, hnotices, -, htold⟩, horder⟩ := haccount turns summary w' hfan
  obtain ⟨hsame, hperm⟩ :=
    horder _ env (world turns.reverse) v' turns.reverse summary' rfl turns.reverse_perm hfan'
  obtain rfl : summary = ⟨4, 3⟩ := hsummary
  rw [hsame] at hfan'
  refine ⟨honce, hyields, w', v', hfan, hfan', hperm, ?_⟩
  rw [hnotices]
  exact (htold (by decide)).length_eq.symm

end Dispatcher

end SmsGateway
