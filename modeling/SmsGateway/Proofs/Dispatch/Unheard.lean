import Mathlib.Data.List.Perm.Basic
import SmsGateway.Proofs.Dispatch.Ending
import SmsGateway.Proofs.Dispatch.Undisturbed

namespace SmsGateway

variable {α σ σ' ν : Type}

/-- Log calls are refused as a script has it, and what listeners do leaves the script alone. The
script is what one sees of the outside. -/
structure Surroundings.FailsBy (env : Surroundings α σ)
    (script : LogCall → ν → Option Failure × ν) (view : σ → ν) : Prop where
  refuse : ∀ c o, script c (view o) = ((env.refuse c o).1, view (env.refuse c o).2)
  handle : ∀ listener e log o, view (env.handle listener e log o).2 = view o

theorem Surroundings.FailsBy.traced {env : Surroundings α σ}
    {script : LogCall → ν → Option Failure × ν} {view : σ → ν} (h : env.FailsBy script view) :
    env.traced.FailsBy script (view ∘ Prod.fst) :=
  ⟨fun c o => h.refuse c o.1, fun listener e log o => h.handle listener e log o.1⟩

/-- Surroundings in which log calls are refused as a script has it and listeners do nothing. -/
def Surroundings.unheard (script : LogCall → ν → Option Failure × ν) : Surroundings α ν where
  refuse := script
  name _ := ""
  handle _ _ _ o := (some .handled, o)
  enqueue _ _ o := (.ok "", o)

/-- Two worlds with the same log, in which the same log calls are going to fail. -/
structure World.Alike (view : σ → ν) (view' : σ' → ν) (w : World σ) (w' : World σ') : Prop where
  log : w.log = w'.log
  outside : view w.outside = view' w'.outside

namespace World

variable {β : Type} {env : Surroundings α σ} {env' : Surroundings α σ'}
  {script : LogCall → ν → Option Failure × ν} {view : σ → ν} {view' : σ' → ν}
  {w : World σ} {w' : World σ'}

theorem Alike.note (h : w.Alike view view' w') (notices notices' : List Notice) :
    (w.note notices).Alike view view' (w'.note notices') :=
  ⟨h.log, h.outside⟩

theorem Alike.refuse (h : w.Alike view view' w') (hfails : env.FailsBy script view)
    (hfails' : env'.FailsBy script view') (c : LogCall) :
    (env.refuse c w.outside).1 = (env'.refuse c w'.outside).1 ∧
      (w.asked env c).Alike view view' (w'.asked env' c) := by
  have hscript := (hfails.refuse c w.outside).symm
  rw [h.outside, hfails'.refuse] at hscript
  obtain ⟨hrefusal, hview⟩ := Prod.mk.inj hscript
  exact ⟨hrefusal, h.log, hview⟩

theorem Alike.call (h : w.Alike view view' w') (hfails : env.FailsBy script view)
    (hfails' : env'.FailsBy script view') (c : LogCall)
    {answer : World σ → Except Failure β × World σ}
    {answer' : World σ' → Except Failure β × World σ'}
    (hanswer : ∀ v v', v.Alike view view' v' →
      (answer v).1 = (answer' v').1 ∧ (answer v).2.Alike view view' (answer' v').2) :
    (w.call env c answer).1 = (w'.call env' c answer').1 ∧
      (w.call env c answer).2.Alike view view' (w'.call env' c answer').2 := by
  obtain ⟨hrefusal, hasked⟩ := h.refuse hfails hfails' c
  rcases hrefuse : env.refuse c w.outside with ⟨refusal | f, o⟩
  · have hadmit' : env'.refuse c w'.outside = (none, (env'.refuse c w'.outside).2) := by
      rw [hrefuse] at hrefusal
      exact Prod.ext hrefusal.symm rfl
    rw [call_of_admitted hrefuse, call_of_admitted hadmit']
    rw [asked, hrefuse] at hasked
    exact hanswer _ _ hasked
  · have hrefuse' : env'.refuse c w'.outside = (some f, (env'.refuse c w'.outside).2) := by
      rw [hrefuse] at hrefusal
      exact Prod.ext hrefusal.symm rfl
    rw [call_of_refused hrefuse, call_of_refused hrefuse']
    rw [asked, hrefuse] at hasked
    exact ⟨rfl, hasked⟩

theorem Alike.create (h : w.Alike view view' w') (hfails : env.FailsBy script view)
    (hfails' : env'.FailsBy script view') (e : Envelope) :
    (w.create env e).1 = (w'.create env' e).1 ∧
      (w.create env e).2.Alike view view' (w'.create env' e).2 := by
  refine h.call hfails hfails' .create ?_
  rintro v v' ⟨hlog, hview⟩
  rw [hlog]
  cases v'.log.create e with
  | ok log => exact ⟨rfl, rfl, hview⟩
  | error f => exact ⟨rfl, hlog, hview⟩

theorem Alike.isPublished (h : w.Alike view view' w') (hfails : env.FailsBy script view)
    (hfails' : env'.FailsBy script view') (id : String) :
    (w.isPublished env id).1 = (w'.isPublished env' id).1 ∧
      (w.isPublished env id).2.Alike view view' (w'.isPublished env' id).2 := by
  refine h.call hfails hfails' .isPublished ?_
  rintro v v' ⟨hlog, hview⟩
  rw [hlog]
  exact ⟨rfl, hlog, hview⟩

theorem Alike.markPublished (h : w.Alike view view' w') (hfails : env.FailsBy script view)
    (hfails' : env'.FailsBy script view') (id : String) :
    (w.markPublished env id).1 = (w'.markPublished env' id).1 ∧
      (w.markPublished env id).2.Alike view view' (w'.markPublished env' id).2 := by
  refine h.call hfails hfails' .markPublished ?_
  rintro v v' ⟨hlog, hview⟩
  rw [hlog]
  cases v'.log.markPublished id with
  | ok log => exact ⟨rfl, rfl, hview⟩
  | error f => exact ⟨rfl, hlog, hview⟩

theorem Alike.load (h : w.Alike view view' w') (hfails : env.FailsBy script view)
    (hfails' : env'.FailsBy script view') (id : String) :
    (w.load env id).1 = (w'.load env' id).1 ∧
      (w.load env id).2.Alike view view' (w'.load env' id).2 := by
  refine h.call hfails hfails' .load ?_
  rintro v v' ⟨hlog, hview⟩
  rw [hlog]
  exact ⟨rfl, hlog, hview⟩

end World

theorem Surroundings.failsBy_unheard (script : LogCall → ν → Option Failure × ν) :
    (unheard script : Surroundings α ν).FailsBy script id :=
  ⟨fun _ _ => rfl, fun _ _ _ _ => rfl⟩

/-- The deeds that are not a listener's. -/
def withoutTold (ds : List (Deed α)) : List (Deed α) :=
  ds.filter fun d => d.call?.isNone

theorem asksIn_entries (ds : List (Deed α)) :
    asksIn (ds.filterMap Deed.asked?) = asksIn ((withoutTold ds).filterMap Deed.asked?) := by
  induction ds with
  | nil => rfl
  | cons d ds ih =>
      cases d with
      | told listener e outcome | begun e => exact ih
      | _ => exact congrArg (_ :: ·) ih

theorem withoutTold_append (ds ds' : List (Deed α)) :
    withoutTold (ds ++ ds') = withoutTold ds ++ withoutTold ds' :=
  List.filter_append ds ds'

namespace Stage

variable {env : Surroundings α σ} {registry : Registry α} {e : Envelope}
  {script : LogCall → ν → Option Failure × ν} {view : σ → ν} {s s' : Stage α} {w w' : World σ}
  {ds : List (Deed α)}

/-- The ways from one stage to another, with the deeds on the way: whichever of the waiting
listeners may be the next to end. -/
inductive Course (env : Surroundings α σ) (registry : Registry α) (e : Envelope) :
    Stage α → World σ → List (Deed α) → Stage α → World σ → Prop where
  | done {s : Stage α} {w : World σ} : Course env registry e s w [] s w
  | advance {s s' : Stage α} {w w' : World σ} {ds : List (Deed α)}
      (hrest : Course env registry e (s.advance env registry e w).1 (s.advance env registry e w).2
        ds s' w') :
      Course env registry e s w ((s.deed? env e w).toList ++ ds) s' w'
  | tell {f : FanOut α} {s' : Stage α} {w w' : World σ} {ds : List (Deed α)} {i : Nat}
      {listener : α} (hlistener : f.waiting[i]? = some listener)
      (hrest : Course env registry e (tell env e f listener (f.waiting.eraseIdx i) w).1
        (tell env e f listener (f.waiting.eraseIdx i) w).2 ds s' w') :
      Course env registry e (.publishing f) w
        (.told listener e (env.handle listener e w.log w.outside).1 :: ds) s' w'

theorem course_run (n : Nat) (s : Stage α) (w : World σ) :
    Course env registry e s w (deeds env registry e n s w) (run env registry e n s w).1
      (run env registry e n s w).2 := by
  induction n generalizing s w with
  | zero => exact .done
  | succ n ih => exact .advance (ih _ _)

theorem call?_logDeed {c : LogCall} {d : Deed α} (h : d.call? = none) :
    (logDeed env c w d).call? = none := by
  rw [logDeed]
  split
  · rfl
  · exact h

/-- A stage with nothing left of its listeners. -/
def unheard : Stage α → Stage α
  | .publishing _ => .publishing ⟨[], [], ⟨0, 0⟩⟩
  | .published _ => .published ⟨0, 0⟩
  | s => s

theorem unheard_afterCheck (r : Except Failure Unit) :
    (afterCheck r : Stage α × List Notice).1.unheard = (afterCheck r : Stage α × _).1 := by
  cases r <;> rfl

theorem unheard_afterCreate (r : Except Failure Unit) :
    (afterCreate r : Stage α × List Notice).1.unheard = (afterCreate r : Stage α × _).1 := by
  cases r with
  | ok _ => rfl
  | error f =>
      rw [afterCreate]
      split <;> rfl

theorem unheard_afterLookup (duplicate : Failure) (r : Except Failure Bool) :
    (afterLookup duplicate r : Stage α × List Notice).1.unheard =
      (afterLookup duplicate r : Stage α × _).1 := by
  rcases r with f | _ | _ <;> rfl

theorem unheard_afterMark (r : Except Failure Unit) :
    (afterMark r : Stage α × List Notice).1.unheard = (afterMark r : Stage α × _).1 := by
  cases r <;> rfl

theorem Alike.logDeed {env' : Surroundings α σ'} {view' : σ' → ν} {w' : World σ'}
    (h : w.Alike view view' w') (hfails : env.FailsBy script view)
    (hfails' : env'.FailsBy script view') (c : LogCall) (answered : Deed α) :
    logDeed env c w answered = logDeed env' c w' answered := by
  rw [Stage.logDeed, Stage.logDeed, (h.refuse hfails hfails' c).1]

/-- Whether the next step of a stage is one that nobody listens to. -/
def IsQuiet : Stage α → Prop
  | .publishing f => f.waiting = [] ∧ f.stuck = []
  | _ => True

theorem noted_unheard {w₁ : World σ} {v₁ : World ν} {β : Type} {a b : Except Failure β}
    {after : Except Failure β → Stage α × List Notice}
    (hafter : ∀ r, (after r).1.unheard = (after r).1) (h : a = b ∧ w₁.Alike view id v₁) :
    (noted (after b) v₁).1 = (noted (after a) w₁).1.unheard ∧
      (noted (after a) w₁).2.Alike view id (noted (after b) v₁).2 := by
  obtain ⟨rfl, hlike⟩ := h
  exact ⟨(hafter a).symm, hlike.note _ _⟩

theorem advance_unheard (registry : Registry α) (e : Envelope) (hfails : env.FailsBy script view)
    (hquiet : s.IsQuiet) {v : World ν} (hlike : w.Alike view id v) :
    ((s.unheard.advance (.unheard script) .empty e v).1 = (s.advance env registry e w).1.unheard ∧
      (s.advance env registry e w).2.Alike view id
        (s.unheard.advance (.unheard script) .empty e v).2) ∧
      s.unheard.deed? (.unheard script) e v = s.deed? env e w ∧
      ∀ d ∈ s.deed? env e w, d.call? = none := by
  have hunheard := Surroundings.failsBy_unheard (α := α) script
  have hlogDeed (c : LogCall) (d : Deed α) : logDeed (.unheard script) c v d = logDeed env c w d :=
    (Alike.logDeed hlike hfails hunheard c d).symm
  cases s with
  | received => exact ⟨noted_unheard unheard_afterCheck ⟨rfl, hlike⟩, rfl, by simp [deed?]⟩
  | checked =>
      refine ⟨noted_unheard unheard_afterCreate (hlike.create hfails hunheard e), ?_, ?_⟩
      · simp only [Stage.unheard, deed?, hlogDeed, hlike.log]
      · intro d hd
        obtain rfl := Option.some.inj hd
        apply call?_logDeed
        split <;> rfl
  | taken f =>
      refine ⟨noted_unheard (unheard_afterLookup f)
        (hlike.isPublished hfails hunheard e.id), ?_, ?_⟩
      · simp only [Stage.unheard, deed?, hlogDeed, hlike.log]
      · intro d hd
        obtain rfl := Option.some.inj hd
        exact call?_logDeed rfl
  | recorded => exact ⟨⟨rfl, hlike.note _ _⟩, rfl, by simp [deed?, Deed.call?, Deed.asked?]⟩
  | publishing f =>
      obtain ⟨waiting, stuck, summary⟩ := f
      obtain ⟨rfl, rfl⟩ := hquiet
      exact ⟨⟨rfl, hlike⟩, rfl, by simp [deed?]⟩
  | published summary =>
      refine ⟨noted_unheard unheard_afterMark (hlike.markPublished hfails hunheard e.id),
        ?_, ?_⟩
      · simp only [Stage.unheard, deed?, hlogDeed, hlike.log]
      · intro d hd
        obtain rfl := Option.some.inj hd
        apply call?_logDeed
        split <;> rfl
  | ended r => exact ⟨⟨rfl, hlike⟩, rfl, by simp [deed?]⟩

theorem tell_unheard (e : Envelope) (hfails : env.FailsBy script view) (f : FanOut α)
    (listener : α) (rest : List α) {v : World ν} (hlike : w.Alike view id v) :
    (tell env e f listener rest w).1.unheard = (Stage.publishing f).unheard ∧
      (tell env e f listener rest w).2.Alike view id v := by
  have hview := hfails.handle listener e w.log w.outside
  rw [tell]
  rcases hhandle : env.handle listener e w.log w.outside with ⟨outcome | outcome, o⟩
  · rw [hhandle] at hview
    exact ⟨rfl, hlike.log, hview.trans hlike.outside⟩
  · rw [hhandle] at hview
    exact ⟨rfl, hlike.log, hview.trans hlike.outside⟩

theorem advance_unheard_of_loud (registry : Registry α) (e : Envelope)
    (hfails : env.FailsBy script view) (hloud : ¬ s.IsQuiet) {v : World ν}
    (hlike : w.Alike view id v) :
    (s.advance env registry e w).1.unheard = s.unheard ∧
      (s.advance env registry e w).2.Alike view id v ∧
      withoutTold (s.deed? env e w).toList = [] := by
  cases s with
  | publishing f =>
      obtain ⟨waiting, stuck, summary⟩ := f
      cases waiting with
      | cons listener rest =>
          obtain ⟨hstage, hlike⟩ := tell_unheard e hfails ⟨listener :: rest, stuck, summary⟩
            listener rest hlike
          exact ⟨hstage, hlike, rfl⟩
      | nil =>
          cases stuck with
          | nil => exact absurd ⟨rfl, rfl⟩ hloud
          | cons other others => exact ⟨rfl, hlike, rfl⟩
  | _ => exact absurd trivial hloud

/-- Whatever a dispatch does, the dispatch that nobody listens to does it as well, but for the
listeners' turns. -/
theorem Course.exists_run_unheard (h : Course env registry e s w ds s' w')
    (hfails : env.FailsBy script view) {v : World ν} (hlike : w.Alike view id v) :
    ∃ n, (run (.unheard script) .empty e n s.unheard v).1 = s'.unheard ∧
      w'.Alike view id (run (.unheard script) .empty e n s.unheard v).2 ∧
      deeds (.unheard script) .empty e n s.unheard v = withoutTold ds := by
  -- The run that nobody listens to is built from the end of the way: it takes one step more where
  -- the way takes a quiet one, and none where a listener has its turn.
  induction h generalizing v with
  | done => exact ⟨0, rfl, hlike, rfl⟩
  | @advance s s' w w' ds hrest ih =>
      rw [withoutTold_append]
      by_cases hquiet : s.IsQuiet
      · obtain ⟨⟨hstage, hlike⟩, hdeed, hcall⟩ := advance_unheard registry e hfails hquiet hlike
        obtain ⟨n, hend, hlike, hdeeds⟩ := ih hlike
        refine ⟨n + 1, ?_, ?_, ?_⟩
        · rw [run_succ, hstage, hend]
        · rw [run_succ, hstage]
          exact hlike
        · have hkept : withoutTold (s.deed? env e w).toList = (s.deed? env e w).toList := by
            rw [withoutTold, List.filter_eq_self]
            intro d hd
            rw [hcall d (Option.mem_toList.mp hd)]
            rfl
          rw [deeds, hstage, hdeeds, hdeed, hkept]
      · obtain ⟨hstage, hlike, hnone⟩ := advance_unheard_of_loud registry e hfails hquiet hlike
        rw [hnone, ← hstage]
        exact ih hlike
  | @tell f s' w w' ds i listener hlistener hrest ih =>
      obtain ⟨hstage, hlike⟩ := tell_unheard e hfails f listener (f.waiting.eraseIdx i) hlike
      rw [← hstage]
      exact ih hlike

theorem run_eq_of_ended {n m : Nat} {r r' : Except Failure Unit}
    (hn : (run env registry e n s w).1 = .ended r) (hm : (run env registry e m s w).1 = .ended r') :
    run env registry e n s w = run env registry e m s w ∧
      deeds env registry e n s w = deeds env registry e m s w := by
  induction n generalizing m s w with
  | zero =>
      obtain rfl : s = .ended r := hn
      exact ⟨(run_ended m r w).symm, (deeds_ended m r w).symm⟩
  | succ n ih =>
      cases m with
      | zero =>
          obtain rfl : s = .ended r' := hm
          exact ⟨run_ended (n + 1) r' w, deeds_ended (n + 1) r' w⟩
      | succ m =>
          obtain ⟨hrun, hdeeds⟩ := ih hn hm
          exact ⟨hrun, congrArg ((s.deed? env e w).toList ++ ·) hdeeds⟩

/-- The calls that the listeners who are waiting are going to get. -/
def due (e : Envelope) : Stage α → List (OutsideCall α)
  | .publishing f => f.waiting.map (.told · e)
  | _ => []

/-- The calls that the fan-out of an event makes before the log is asked to mark the event. -/
def owed (registry : Registry α) (e : Envelope) : LogCall × Option Failure → List (OutsideCall α)
  | (.markPublished, _) => (registry.listeners e.type).map (.told · e)
  | _ => []

/-- The calls of a fan-out that has begun, as long as the log has not been asked to mark it. -/
def unmarked (registry : Registry α) (e : Envelope) : Stage α → List (OutsideCall α)
  | .publishing _ | .published _ => (registry.listeners e.type).map (.told · e)
  | _ => []

theorem Step.calls {log log' : EventLog} {d : Option (Deed α)}
    (h : Step env registry e s log d s' log') :
    (d.toList.filterMap Deed.call? ++ (s'.due e ++ s.unmarked registry e)).Perm
      ((asksIn (d.toList.filterMap Deed.asked?)).flatMap (owed registry e) ++
        (s.due e ++ s'.unmarked registry e)) := by
  cases h with
  | refuseCreate hrefuse => split <;> exact .refl _
  | begin => exact .of_eq (List.append_nil _)
  | tell hwaiting | hang hwaiting =>
      exact ((hwaiting.map (OutsideCall.told · e)).append_right _).symm
  | finish hwaiting hstuck => simp [due, unmarked, asksIn, hwaiting]
  | refuseMark hrefuse | mark hmark | miss hmissing =>
      change ((registry.listeners e.type).map (OutsideCall.told · e)).Perm _
      simp [due, unmarked, asksIn, owed, Deed.asked?]
  | _ => exact .refl _

theorem Step.calls_cons {log log' : EventLog} {d : Option (Deed α)} {s'' : Stage α}
    (h : Step env registry e s log d s' log')
    (hrest : (ds.filterMap Deed.call? ++ (s''.due e ++ s'.unmarked registry e)).Perm
      ((asksIn (ds.filterMap Deed.asked?)).flatMap (owed registry e) ++
        (s'.due e ++ s''.unmarked registry e))) :
    ((d.toList ++ ds).filterMap Deed.call? ++ (s''.due e ++ s.unmarked registry e)).Perm
      ((asksIn ((d.toList ++ ds).filterMap Deed.asked?)).flatMap (owed registry e) ++
        (s.due e ++ s''.unmarked registry e)) := by
  classical
  have hstep := h.calls
  rw [List.perm_iff_count] at hstep hrest ⊢
  intro call
  have hfirst := hstep call
  have hothers := hrest call
  simp only [asksIn, List.filterMap_append, List.flatMap_append, List.count_append]
    at hfirst hothers ⊢
  omega

theorem Course.calls (h : Course env registry e s w ds s' w') :
    (ds.filterMap Deed.call? ++ (s'.due e ++ s.unmarked registry e)).Perm
      ((asksIn (ds.filterMap Deed.asked?)).flatMap (owed registry e) ++
        (s.due e ++ s'.unmarked registry e)) := by
  induction h with
  | done => exact .refl _
  | @advance s s' w w' ds hrest ih =>
      have hstep : Step env registry e s w.log (s.deed? env e w) _ _ := step_advance s w
      exact hstep.calls_cons ih
  | @tell f s' w w' ds i listener hlistener hrest ih =>
      obtain ⟨hi, rfl⟩ := List.getElem?_eq_some_iff.mp hlistener
      exact (step_tell w (List.getElem_cons_eraseIdx_perm hi).symm).calls_cons ih

theorem Course.calls_of_ended {r : Except Failure Unit}
    (h : Course env registry e .received w ds (.ended r) w') :
    (ds.filterMap Deed.call?).Perm
      ((asksIn (ds.filterMap Deed.asked?)).flatMap (owed registry e)) := by
  simpa [due, unmarked] using h.calls

theorem Course.agree_deeds {env' : Surroundings α σ'} {view' : σ' → ν} {w₁ : World σ}
    {w' w₁' : World σ'} {ds' : List (Deed α)} {r r' : Except Failure Unit}
    (hfails : env.FailsBy script view) (hfails' : env'.FailsBy script view')
    (hlike : w.Alike view view' w') (h : Course env registry e .received w ds (.ended r) w₁)
    (h' : Course env' registry e .received w' ds' (.ended r') w₁') :
    r = r' ∧ withoutTold ds = withoutTold ds' ∧ w₁.Alike view view' w₁' := by
  have hv : w.Alike view id ⟨w.log, [], view w.outside⟩ := ⟨rfl, rfl⟩
  have hv' : w'.Alike view' id ⟨w.log, [], view w.outside⟩ := ⟨hlike.log.symm, hlike.outside.symm⟩
  obtain ⟨n, hend, hworld, hdeeds⟩ := h.exists_run_unheard hfails hv
  obtain ⟨m, hend', hworld', hdeeds'⟩ := h'.exists_run_unheard hfails' hv'
  obtain ⟨hrun, hsame⟩ := run_eq_of_ended hend hend'
  refine ⟨?_, ?_, ?_⟩
  · rw [hrun, hend'] at hend
    exact (Stage.ended.inj hend).symm
  · rw [← hdeeds, ← hdeeds', hsame]
  · rw [← hrun] at hworld'
    exact ⟨hworld.log.trans hworld'.log.symm, hworld.outside.trans hworld'.outside.symm⟩

theorem Course.record_eq {w w' : World (σ × List (TraceEntry α))}
    (h : Course env.traced registry e s w ds s' w') :
    w'.outside.2 = w.outside.2 ++ ds.filterMap Deed.asked? := by
  induction h with
  | done => exact (List.append_nil _).symm
  | @advance s s' w w' ds hrest ih =>
      have hstep : s.advance env.traced registry e w = _ :=
        advance_records env.traced_records s ⟨w.log, w.notices, w.outside.1⟩ w.outside.2
      have hdeed : s.deed? env.traced e w = s.deed? env e ⟨w.log, w.notices, w.outside.1⟩ :=
        deed?_records env.traced_records s ⟨w.log, w.notices, w.outside.1⟩ w.outside.2
      rw [ih, hstep, hdeed, List.filterMap_append, filterMap_toList, ← List.append_assoc]
      simp only [Option.bind_fun_some]
      rfl
  | @tell f s' w w' ds i listener hlistener hrest ih =>
      have hstep : Stage.tell env.traced e f listener (f.waiting.eraseIdx i) w = _ :=
        tell_records env.traced_records f listener _ ⟨w.log, w.notices, w.outside.1⟩ w.outside.2
      rw [ih, hstep]
      exact List.append_assoc _ _ _

/-- Two ways through the dispatch of an event in traced surroundings came to the same result, asked
the log the same and left it the same. On both of them every listener of the event had been called
with it when the log was asked to mark it, and without that nobody was called. -/
structure Agree (registry : Registry α) (e : Envelope) (view : σ → ν) (view' : σ' → ν)
    (r r' : Except Failure Unit) (w : World (σ × List (TraceEntry α)))
    (w' : World (σ' × List (TraceEntry α))) : Prop where
  result : r = r'
  asks : asksIn w.outside.2 = asksIn w'.outside.2
  told : (w.outside.2.filterMap TraceEntry.call?).Perm
    ((asksIn w.outside.2).flatMap (owed registry e))
  calls : (w.outside.2.filterMap TraceEntry.call?).Perm (w'.outside.2.filterMap TraceEntry.call?)
  log : w.log = w'.log
  outside : view w.outside.1 = view' w'.outside.1

theorem Course.told {r : Except Failure Unit} {v : World (σ × List (TraceEntry α))}
    (h : Course env.traced registry e .received (w.beside []) ds (.ended r) v) :
    (v.outside.2.filterMap TraceEntry.call?).Perm
      ((asksIn v.outside.2).flatMap (owed registry e)) := by
  have hrecord : v.outside.2 = ds.filterMap Deed.asked? := h.record_eq
  rw [hrecord, filterMap_call?_entries]
  exact h.calls_of_ended

theorem Course.agree {env' : Surroundings α σ'} {view' : σ' → ν} {w' : World σ'}
    {ds' : List (Deed α)} {r r' : Except Failure Unit} {v : World (σ × List (TraceEntry α))}
    {v' : World (σ' × List (TraceEntry α))} (hfails : env.FailsBy script view)
    (hfails' : env'.FailsBy script view') (hlike : w.Alike view view' w')
    (h : Course env.traced registry e .received (w.beside []) ds (.ended r) v)
    (h' : Course env'.traced registry e .received (w'.beside []) ds' (.ended r') v') :
    Agree registry e view view' r r' v v' := by
  have htraced : (w.beside ([] : List (TraceEntry α))).Alike (view ∘ Prod.fst) (view' ∘ Prod.fst)
      (w'.beside ([] : List (TraceEntry α))) := ⟨hlike.log, hlike.outside⟩
  obtain ⟨hresult, hdeeds, hlog, houtside⟩ := h.agree_deeds hfails.traced hfails'.traced htraced h'
  have hrecord : v.outside.2 = ds.filterMap Deed.asked? := h.record_eq
  have hrecord' : v'.outside.2 = ds'.filterMap Deed.asked? := h'.record_eq
  have hasks : asksIn v.outside.2 = asksIn v'.outside.2 := by
    rw [hrecord, hrecord', asksIn_entries, hdeeds, ← asksIn_entries]
  refine ⟨hresult, hasks, h.told, ?_, hlog, houtside⟩
  have htold := h.told
  rw [hasks] at htold
  exact htold.trans h'.told.symm

end Stage

namespace Dispatcher

variable {d : Dispatcher α} {env : Surroundings α σ} {env' : Surroundings α σ'} {e : Envelope}
  {script : LogCall → ν → Option Failure × ν} {view : σ → ν} {view' : σ' → ν} {w : World σ}
  {w' : World σ'}

theorem dispatchSync_traced (w : World σ) :
    d.dispatchSync env.traced e (w.beside []) =
      ((d.dispatchSync env e w).1, (d.dispatchSync env e w).2.beside (d.trace env e w)) := by
  have h := dispatchSync_records (d := d) (e := e) env.traced_records w []
  rwa [List.filterMap_some] at h

theorem course_of_dispatchSync {r : Except Failure Unit}
    (h : (d.dispatchSync env e w).1 = some r) :
    Stage.Course env d.registry e .received w (d.deeds env e w) (.ended r)
      (d.dispatchSync env e w).2 := by
  rw [dispatchSync_eq] at h ⊢
  rw [← Stage.result?_eq_some_iff.mp h]
  exact Stage.course_run _ _ _

theorem dispatchSync_agree (hfails : env.FailsBy script view) (hfails' : env'.FailsBy script view')
    (hlike : w.Alike view view' w') (hcomplete : env.CompletesAll d.registry e)
    (hcomplete' : env'.CompletesAll d.registry e) :
    ∃ r, (d.dispatchSync env e w).1 = some r ∧ (d.dispatchSync env' e w').1 = some r ∧
      Stage.Agree d.registry e view view' r r (d.dispatchSync env.traced e (w.beside [])).2
        (d.dispatchSync env'.traced e (w'.beside [])).2 := by
  obtain ⟨r, hr⟩ := dispatchSync_ends hcomplete w
  obtain ⟨r', hr'⟩ := dispatchSync_ends hcomplete' w'
  have hcourse : (d.dispatchSync env.traced e (w.beside [])).1 = some r := by
    rw [dispatchSync_traced, hr]
  have hcourse' : (d.dispatchSync env'.traced e (w'.beside [])).1 = some r' := by
    rw [dispatchSync_traced, hr']
  have hagree := (course_of_dispatchSync hcourse).agree hfails hfails' hlike
    (course_of_dispatchSync hcourse')
  obtain rfl := hagree.result
  exact ⟨r, hr, hr', hagree⟩

end Dispatcher

end SmsGateway
