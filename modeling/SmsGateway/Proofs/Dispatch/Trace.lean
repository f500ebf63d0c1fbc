import SmsGateway.Proofs.Dispatch.Deeds

namespace SmsGateway

variable {α σ κ : Type}

theorem filterMap_toList {β γ : Type} (o : Option β) (f : β → Option γ) :
    o.toList.filterMap f = (o.bind f).toList := by
  cases o with
  | none => rfl
  | some x => cases hx : f x <;> simp [hx]

/-- A listener was let handle an event and ended so; `none` if it never ends. -/
structure Turn (α : Type) where
  listener : α
  event : Envelope
  outcome : Option Outcome

/-- Something that the outside was asked, and its answer. A log call that was not refused has got to
the log. -/
inductive TraceEntry (α : Type) where
  | log (call : LogCall) (refusal : Option Failure)
  | turn (t : Turn α)
  | queue (task : DeliveryTask) (delay : Time.Span) (answer : Except Failure String)

def TraceEntry.turn? : TraceEntry α → Option (Turn α)
  | .turn t => some t
  | _ => none

def turnsIn (trace : List (TraceEntry α)) : List (Turn α) :=
  trace.filterMap TraceEntry.turn?

theorem turnsIn_append (trace trace' : List (TraceEntry α)) :
    turnsIn (trace ++ trace') = turnsIn trace ++ turnsIn trace' :=
  List.filterMap_append

theorem turnsIn_map_turn (turns : List (Turn α)) : turnsIn (turns.map .turn) = turns := by
  rw [turnsIn, List.filterMap_map]
  exact List.filterMap_some

/-- What the log was asked, and whether that was refused. -/
def asksIn (trace : List (TraceEntry α)) : List (LogCall × Option Failure) :=
  trace.filterMap fun
    | .log call refusal => some (call, refusal)
    | _ => none

/-- The same surroundings, with a record of all that they are asked and of what they answer. -/
def Surroundings.traced (env : Surroundings α σ) : Surroundings α (σ × List (TraceEntry α)) where
  refuse c o :=
    let (refusal, outside) := env.refuse c o.1
    (refusal, outside, o.2 ++ [.log c refusal])
  name := env.name
  handle listener e log o :=
    let (outcome, outside) := env.handle listener e log o.1
    (outcome, outside, o.2 ++ [.turn ⟨listener, e, outcome⟩])
  enqueue t delay o :=
    let (answer, outside) := env.enqueue t delay o.1
    (answer, outside, o.2 ++ [.queue t delay answer])

def World.beside (w : World σ) (record : List κ) : World (σ × List κ) :=
  ⟨w.log, w.notices, w.outside, record⟩

/-- Surroundings answer as others do, and keep a record of some of what they are asked. -/
structure Surroundings.Records (env' : Surroundings α (σ × List κ)) (env : Surroundings α σ)
    (keep : TraceEntry α → Option κ) : Prop where
  name : env'.name = env.name
  refuse : ∀ c o record, env'.refuse c (o, record) =
    ((env.refuse c o).1, (env.refuse c o).2,
      record ++ (keep (.log c (env.refuse c o).1)).toList)
  handle : ∀ listener e log o record, env'.handle listener e log (o, record) =
    ((env.handle listener e log o).1, (env.handle listener e log o).2,
      record ++ (keep (.turn ⟨listener, e, (env.handle listener e log o).1⟩)).toList)

theorem Surroundings.traced_records (env : Surroundings α σ) : env.traced.Records env some :=
  ⟨rfl, fun _ _ _ => rfl, fun _ _ _ _ _ => rfl⟩

/-- What a deed looks like from the outside. -/
def Deed.asked? : Deed α → Option (TraceEntry α)
  | .refused c f => some (.log c (some f))
  | .recorded _ | .met _ => some (.log .create none)
  | .answered _ _ => some (.log .isPublished none)
  | .begun _ => none
  | .told listener e outcome => some (.turn ⟨listener, e, outcome⟩)
  | .marked _ | .missed _ => some (.log .markPublished none)

theorem Deed.refused_mem_of_log {ds : List (Deed α)} {c : LogCall} {f : Failure}
    (h : .log c (some f) ∈ ds.filterMap Deed.asked?) : .refused c f ∈ ds := by
  obtain ⟨d, hd, hentry⟩ := List.mem_filterMap.mp h
  cases d with
  | refused c' f' =>
      obtain ⟨rfl, hf⟩ := TraceEntry.log.inj (Option.some.inj hentry)
      obtain rfl := Option.some.inj hf
      exact hd
  | _ => simp [Deed.asked?] at hentry

namespace World

variable {β : Type} {env : Surroundings α σ} {env' : Surroundings α (σ × List κ)}
  {keep : TraceEntry α → Option κ}

def refusal? (w : World σ) (env : Surroundings α σ) (c : LogCall) : Option Failure :=
  (env.refuse c w.outside).1

/-- The world after the outside was asked whether it refuses a log call. -/
def asked (w : World σ) (env : Surroundings α σ) (c : LogCall) : World σ :=
  { w with outside := (env.refuse c w.outside).2 }

theorem call_records (h : env'.Records env keep) (c : LogCall) (w : World σ) (record : List κ)
    {answer : World σ → Except Failure β × World σ}
    {answer' : World (σ × List κ) → Except Failure β × World (σ × List κ)}
    (hanswer : ∀ v record, answer' (v.beside record) = ((answer v).1, (answer v).2.beside record)) :
    (w.beside record).call env' c answer' =
      ((w.call env c answer).1, (w.call env c answer).2.beside
        (record ++ (keep (.log c (w.refusal? env c))).toList)) := by
  have hrefuse := h.refuse c w.outside record
  rw [refusal?]
  rcases hasked : env.refuse c w.outside with ⟨refusal | f, o⟩
  · rw [hasked] at hrefuse
    rw [call_of_admitted hasked, call_of_admitted (w := w.beside record) hrefuse]
    exact hanswer ⟨w.log, w.notices, o⟩ _
  · rw [hasked] at hrefuse
    rw [call_of_refused hasked, call_of_refused (w := w.beside record) hrefuse]
    rfl

theorem create_records (h : env'.Records env keep) (e : Envelope) (w : World σ)
    (record : List κ) :
    (w.beside record).create env' e =
      ((w.create env e).1, (w.create env e).2.beside
        (record ++ (keep (.log .create (w.refusal? env .create))).toList)) := by
  refine call_records h .create w record ?_
  intro v record
  simp only [beside]
  cases v.log.create e <;> rfl

theorem isPublished_records (h : env'.Records env keep) (id : String) (w : World σ)
    (record : List κ) :
    (w.beside record).isPublished env' id =
      ((w.isPublished env id).1, (w.isPublished env id).2.beside
        (record ++ (keep (.log .isPublished (w.refusal? env .isPublished))).toList)) :=
  call_records h .isPublished w record fun _ _ => rfl

theorem markPublished_records (h : env'.Records env keep) (id : String) (w : World σ)
    (record : List κ) :
    (w.beside record).markPublished env' id =
      ((w.markPublished env id).1, (w.markPublished env id).2.beside
        (record ++ (keep (.log .markPublished (w.refusal? env .markPublished))).toList)) := by
  refine call_records h .markPublished w record ?_
  intro v record
  simp only [beside]
  cases v.log.markPublished id <;> rfl

end World

namespace Stage

variable {env : Surroundings α σ} {env' : Surroundings α (σ × List κ)}
  {keep : TraceEntry α → Option κ} {registry : Registry α} {e : Envelope}

theorem asked?_logDeed {c : LogCall} {w : World σ} {d : Deed α}
    (h : d.asked? = some (.log c none)) :
    (logDeed env c w d).asked? = some (.log c (w.refusal? env c)) := by
  rw [logDeed, World.refusal?]
  cases (env.refuse c w.outside).1 with
  | none => exact h
  | some f => rfl

theorem tell_records (h : env'.Records env keep) (f : FanOut α) (listener : α) (rest : List α)
    (w : World σ) (record : List κ) :
    tell env' e f listener rest (w.beside record) =
      ((tell env e f listener rest w).1, (tell env e f listener rest w).2.beside
        (record ++ (keep (.turn
          ⟨listener, e, (env.handle listener e w.log w.outside).1⟩)).toList)) := by
  have hhandle := h.handle listener e w.log w.outside record
  rcases hends : env.handle listener e w.log w.outside with ⟨outcome | outcome, o⟩
  all_goals
    rw [hends] at hhandle
    simp only [tell, World.beside, World.note, h.name, hhandle, hends]

theorem deed?_records (h : env'.Records env keep) (s : Stage α) (w : World σ) (record : List κ) :
    s.deed? env' e (w.beside record) = s.deed? env e w := by
  have hlogDeed (c : LogCall) (d : Deed α) :
      logDeed env' c (w.beside record) d = logDeed env c w d := by
    rw [logDeed, logDeed, World.beside, h.refuse]
  cases s with
  | publishing f =>
      rw [deed?, deed?]
      congr 1
      funext listener
      rw [World.beside, h.handle]
  | checked | taken _ | published _ => exact congrArg some (hlogDeed _ _)
  | _ => rfl

theorem advance_records (h : env'.Records env keep) (s : Stage α) (w : World σ)
    (record : List κ) :
    s.advance env' registry e (w.beside record) =
      ((s.advance env registry e w).1, (s.advance env registry e w).2.beside
        (record ++ ((s.deed? env e w).bind fun d => d.asked?.bind keep).toList)) := by
  have hlog {c : LogCall} {d : Deed α} (hd : d.asked? = some (.log c none)) :
      ((some (logDeed env c w d)).bind fun d => d.asked?.bind keep) =
        keep (.log c (w.refusal? env c)) := by
    rw [Option.bind_some, asked?_logDeed hd, Option.bind_some]
  cases s with
  | received | recorded | ended _ =>
      simp only [deed?, Option.bind_none, Option.bind_some, Deed.asked?, Option.toList_none,
        List.append_nil]
      rfl
  | checked =>
      have hasked : (if (w.log.find? e.id).isSome then .met e.id else .recorded e : Deed α).asked? =
          some (.log .create none) := by
        split <;> rfl
      rw [deed?, hlog hasked, advance, advance, World.create_records h]
      rfl
  | taken duplicate =>
      rw [deed?, hlog rfl, advance, advance, World.isPublished_records h]
      rfl
  | publishing f =>
      obtain ⟨waiting, stuck, summary⟩ := f
      cases waiting with
      | cons listener rest => exact tell_records h _ listener rest w record
      | nil =>
          simp only [deed?, List.head?_nil, Option.map_none, Option.bind_none, Option.toList_none,
            List.append_nil]
          cases stuck <;> rfl
  | published summary =>
      have hasked : (if (w.log.find? e.id).isSome then .marked e.id else .missed e.id :
          Deed α).asked? = some (.log .markPublished none) := by
        split <;> rfl
      rw [deed?, hlog hasked, advance, advance, World.markPublished_records h]
      rfl

end Stage

end SmsGateway
