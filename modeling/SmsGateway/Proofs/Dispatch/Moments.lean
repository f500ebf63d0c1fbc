import Mathlib.Data.List.Induction
import SmsGateway.Proofs.Dispatch.Moves

namespace SmsGateway

variable {α σ κ : Type}

/-- A move, and the state that it finds. -/
structure Moment (α σ : Type) where
  before : Dispatches α σ
  move : Move

namespace Stage.Step

variable {env : Surroundings α σ} {registry : Registry α} {e : Envelope} {s s' : Stage α}
  {log log' : EventLog} {d : Option (Deed α)} {f : Failure} {id : String}

theorem deed_of_recorded (h : Step env registry e .checked log d .recorded log') :
    d = some (.recorded e) := by
  generalize hlast : Stage.recorded = last at h
  cases h with
  | create hcreate => rfl
  | refuseCreate hrefuse => split at hlast <;> simp at hlast
  | meet hfound => simp at hlast

theorem stages_of_recorded {e' : Envelope} (h : Step env registry e s log (some (.recorded e')) s' log') :
    e' = e ∧ s = .checked ∧ s' = .recorded := by
  cases h
  exact ⟨rfl, rfl, rfl⟩

theorem deed_of_marked {summary : PublishSummary}
    (h : Step env registry e (.published summary) log d (.ended (.ok ())) log') :
    d = some (.marked e.id) := by
  cases h
  rfl

theorem stages_of_marked (h : Step env registry e s log (some (.marked id)) s' log') :
    id = e.id ∧ (∃ summary, s = .published summary) ∧ s' = .ended (.ok ()) := by
  cases h
  exact ⟨rfl, ⟨_, rfl⟩, rfl⟩

theorem deed_of_begun {fanOut : FanOut α}
    (h : Step env registry e .recorded log d (.publishing fanOut) log') : d = some (.begun e) := by
  cases h
  rfl

theorem stages_of_begun {e' : Envelope} (h : Step env registry e s log (some (.begun e')) s' log') :
    e' = e ∧ s = .recorded ∧ ∃ fanOut, s' = .publishing fanOut := by
  cases h
  exact ⟨rfl, rfl, _, rfl⟩

theorem stages_of_answered {published : Bool}
    (h : Step env registry e s log (some (.answered id published)) s' log') :
    id = e.id ∧ ∃ f, s = .taken f ∧
      s' = if published then .ended (.error f) else .recorded := by
  cases h <;> exact ⟨rfl, _, rfl, rfl⟩

end Stage.Step

namespace Moment

variable (env : Surroundings α σ) (registry : Registry α) (x : Moment α σ)

/-- What the move leads to. -/
def after : Dispatches α σ :=
  x.before.move env registry x.move

/-- What the outside is asked in the course of the move, and what it answers. -/
def trace : List (TraceEntry α) :=
  ((x.before.beside []).move env.traced registry x.move).world.outside.2

/-- A call with an event gets from one stage to another. -/
structure Passes (i : Nat) (e : Envelope) (a b : Stage α) : Prop where
  before : ∃ dropped, x.before.calls[i]? = some ⟨e, a, dropped⟩
  after : ∃ dropped, (x.after env registry).calls[i]? = some ⟨e, b, dropped⟩

/-- A call records its event. -/
def Creates (i : Nat) (e : Envelope) : Prop :=
  x.Passes env registry i e .checked .recorded

/-- A call marks its event as published. -/
def Marks (i : Nat) (e : Envelope) : Prop :=
  ∃ summary, x.Passes env registry i e (.published summary) (.ended (.ok ()))

/-- A call begins the fan-out of its event, or lets a listener handle an event. -/
def Starts (i : Nat) (e : Envelope) : Prop :=
  (∃ fanOut, x.Passes env registry i e .recorded (.publishing fanOut)) ∨
    x.move.call? = some i ∧ ∃ t ∈ turnsIn (x.trace env registry), t.event = e

/-- A call whose event was recorded before gets to know whether it is published. -/
def Learns (i : Nat) (e : Envelope) (published : Bool) : Prop :=
  .log .isPublished none ∈ x.trace env registry ∧
    ∃ f, x.Passes env registry i e (.taken f) (if published then .ended (.error f) else .recorded)

/-- What the outside is asked by one of the calls. -/
def traceOf (i : Nat) (h : List (Moment α σ)) : List (TraceEntry α) :=
  (h.filter fun x => x.move.call? = some i).flatMap (trace env registry)

def deed? : Option (Nat × Deed α) :=
  x.before.deed? env x.move

def deedsOf (i : Nat) (h : List (Moment α σ)) : List (Deed α) :=
  h.filterMap fun x => (x.deed? env).bind fun y => if y.1 = i then some y.2 else none

theorem change : x.before.Change env registry (x.deed? env) (x.after env registry) :=
  Dispatches.change_move env registry x.before x.move

variable {env registry x}

theorem call?_of_deed? {i : Nat} {d : Deed α} (h : x.deed? env = some (i, d)) :
    x.move.call? = some i :=
  Dispatches.call?_of_deed? h

theorem trace_eq : x.trace env registry = ((x.deed? env).bind fun y => y.2.asked?).toList := by
  rw [trace, Dispatches.move_records env.traced_records]
  change ((x.deed? env).bind fun y => y.2.asked?.bind some).toList = _
  simp only [Option.bind_fun_some]

theorem mem_trace {entry : TraceEntry α} :
    entry ∈ x.trace env registry ↔ ∃ i d, x.deed? env = some (i, d) ∧ d.asked? = some entry := by
  rw [trace_eq, Option.mem_toList, Option.bind_eq_some_iff, Prod.exists]

theorem mem_deedsOf {h : List (Moment α σ)} {i : Nat} {d : Deed α} :
    d ∈ deedsOf env i h ↔ ∃ x ∈ h, x.deed? env = some (i, d) := by
  simp only [deedsOf, List.mem_filterMap, Option.bind_eq_some_iff, Prod.exists]
  constructor
  · rintro ⟨x, hx, j, d', hdeed, hd⟩
    split at hd
    · next hj =>
        obtain rfl := Option.some.inj hd
        exact ⟨x, hx, hj ▸ hdeed⟩
    · simp at hd
  · rintro ⟨x, hx, hdeed⟩
    exact ⟨x, hx, i, d, hdeed, if_pos rfl⟩

theorem deedsOf_append (i : Nat) (h h' : List (Moment α σ)) :
    deedsOf env i (h ++ h') = deedsOf env i h ++ deedsOf env i h' :=
  List.filterMap_append

theorem deedsOf_singleton {d : Option (Deed α)} {i : Nat} (h : x.deed? env = d.map (i, ·))
    (j : Nat) : deedsOf env j [x] = if i = j then d.toList else [] := by
  change ((x.deed? env).bind fun y => if y.1 = j then some y.2 else none).toList = _
  rw [h]
  cases d with
  | none => simp
  | some d => by_cases hij : i = j <;> simp [hij]

theorem traceOf_append (i : Nat) (h h' : List (Moment α σ)) :
    traceOf env registry i (h ++ h') = traceOf env registry i h ++ traceOf env registry i h' := by
  rw [traceOf, List.filter_append, List.flatMap_append]
  rfl

theorem traceOf_singleton (i : Nat) (x : Moment α σ) :
    traceOf env registry i [x] = (deedsOf env i [x]).filterMap Deed.asked? := by
  have htrace : traceOf env registry i [x] =
      if x.move.call? = some i then x.trace env registry else [] := by
    rw [traceOf, List.filter_singleton]
    by_cases hcall : x.move.call? = some i <;> simp [hcall]
  rw [htrace, trace_eq]
  cases hdeed : x.deed? env with
  | none =>
      rw [deedsOf_singleton (d := none) (i := i) hdeed, if_pos rfl]
      split <;> rfl
  | some y =>
      obtain ⟨j, d⟩ := y
      rw [deedsOf_singleton (d := some d) (i := j) hdeed]
      simp only [call?_of_deed? hdeed, Option.some_inj]
      split
      · rw [filterMap_toList]
        rfl
      · rfl

theorem traceOf_eq_deeds (i : Nat) (h : List (Moment α σ)) :
    traceOf env registry i h = (deedsOf env i h).filterMap Deed.asked? := by
  induction h with
  | nil => rfl
  | cons x h ih =>
      rw [← List.singleton_append, traceOf_append, traceOf_singleton, ih, deedsOf_append,
        List.filterMap_append]

theorem Passes.exists_step {i : Nat} {e : Envelope} {a b : Stage α}
    (h : x.Passes env registry i e a b) (hne : a ≠ b) :
    ∃ d : Option (Deed α), x.deed? env = d.map (i, ·) ∧
      Stage.Step env registry e a x.before.world.log d b (x.after env registry).world.log := by
  obtain ⟨⟨dropped, hbefore⟩, dropped', hafter⟩ := h
  have hchange := x.change env registry
  generalize x.deed? env = d, x.after env registry = s' at hchange hafter
  cases hchange with
  | submit e' =>
      rw [List.getElem?_append_left (List.getElem?_eq_some_iff.mp hbefore).1, hbefore] at hafter
      simp_all
  | @drop j call hcall =>
      rw [List.getElem?_set] at hafter
      grind
  | @step j call d after hcall hstep =>
      obtain ⟨hj, hset⟩ := List.getElem?_eq_some_iff.mp hcall
      rw [Dispatches.withCall] at hafter
      by_cases hij : j = i
      · subst hij
        obtain rfl := Option.some.inj (hcall.symm.trans hbefore)
        rw [List.getElem?_set_self hj] at hafter
        obtain rfl : after.1 = b := congrArg DispatchCall.stage (Option.some.inj hafter)
        exact ⟨d, rfl, hstep⟩
      · rw [List.getElem?_set_ne hij, hbefore] at hafter
        simp_all
  | idle => simp_all

theorem exists_passes_of_deed? (registry : Registry α) {i : Nat} {d : Deed α}
    (h : x.deed? env = some (i, d)) :
    ∃ e a b, x.Passes env registry i e a b ∧
      Stage.Step env registry e a x.before.world.log (some d) b
        (x.after env registry).world.log := by
  have hchange := x.change env registry
  rw [h] at hchange
  generalize hdone : some (i, d) = done, hafter : x.after env registry = s' at hchange
  cases hchange with
  | submit e | drop hcall | idle => simp at hdone
  | @step j call d' after hcall hstep =>
      obtain ⟨d, rfl, heq⟩ := Option.map_eq_some_iff.mp hdone.symm
      obtain ⟨rfl, rfl⟩ := Prod.mk.inj heq
      refine ⟨call.event, call.stage, after.1, ⟨⟨call.dropped, hcall⟩, call.dropped, ?_⟩, hstep⟩
      rw [hafter, Dispatches.withCall, List.getElem?_set_self (List.getElem?_eq_some_iff.mp hcall).1]

theorem creates_iff {i : Nat} {e : Envelope} :
    x.Creates env registry i e ↔ x.deed? env = some (i, .recorded e) := by
  constructor
  · intro h
    obtain ⟨d, hdeed, hstep⟩ := h.exists_step (by simp)
    rw [hdeed, hstep.deed_of_recorded]
    rfl
  · intro h
    obtain ⟨e', a, b, hpasses, hstep⟩ := exists_passes_of_deed? registry h
    obtain ⟨rfl, rfl, rfl⟩ := hstep.stages_of_recorded
    exact hpasses

theorem Marks.deed?_eq {i : Nat} {e : Envelope} (h : x.Marks env registry i e) :
    x.deed? env = some (i, .marked e.id) := by
  obtain ⟨summary, hpasses⟩ := h
  obtain ⟨d, hdeed, hstep⟩ := hpasses.exists_step (by simp)
  rw [hdeed, hstep.deed_of_marked]
  rfl

theorem exists_marks {i : Nat} {id : String} (h : x.deed? env = some (i, .marked id)) :
    ∃ e, x.Marks env registry i e ∧ e.id = id := by
  obtain ⟨e, a, b, hpasses, hstep⟩ := exists_passes_of_deed? registry h
  obtain ⟨rfl, ⟨summary, rfl⟩, rfl⟩ := hstep.stages_of_marked
  exact ⟨e, ⟨summary, hpasses⟩, rfl⟩

theorem starts_iff {i : Nat} {e : Envelope} :
    x.Starts env registry i e ↔
      ∃ d, x.deed? env = some (i, d) ∧ d.started? = some e := by
  constructor
  · rintro (⟨fanOut, hpasses⟩ | ⟨hcall, t, ht, rfl⟩)
    · obtain ⟨d, hdeed, hstep⟩ := hpasses.exists_step (by simp)
      rw [hstep.deed_of_begun] at hdeed
      exact ⟨.begun e, hdeed, rfl⟩
    · obtain ⟨entry, hentry, hturn⟩ := List.mem_filterMap.mp ht
      obtain ⟨j, d, hdeed, hd⟩ := mem_trace.mp hentry
      obtain rfl := Option.some.inj ((call?_of_deed? hdeed).symm.trans hcall)
      refine ⟨d, hdeed, ?_⟩
      cases d with
      | told listener e outcome =>
          obtain rfl := Option.some.inj hd
          obtain rfl := Option.some.inj hturn
          rfl
      | begun e => simp [Deed.asked?] at hd
      | _ =>
          obtain rfl := Option.some.inj hd
          simp [TraceEntry.turn?] at hturn
  · rintro ⟨d, hdeed, hstarted⟩
    cases d with
    | begun e' =>
        obtain rfl := Option.some.inj hstarted
        obtain ⟨e'', a, b, hpasses, hstep⟩ := exists_passes_of_deed? registry hdeed
        obtain ⟨rfl, rfl, fanOut, rfl⟩ := hstep.stages_of_begun
        exact .inl ⟨fanOut, hpasses⟩
    | told listener e' outcome =>
        obtain rfl := Option.some.inj hstarted
        refine .inr ⟨call?_of_deed? hdeed, ⟨listener, e', outcome⟩, ?_, rfl⟩
        exact List.mem_filterMap.mpr ⟨.turn _, mem_trace.mpr ⟨i, _, hdeed, rfl⟩, rfl⟩
    | _ => simp [Deed.started?] at hstarted

theorem exists_answered (h : .log .isPublished none ∈ x.trace env registry) :
    ∃ i id published, x.deed? env = some (i, .answered id published) := by
  obtain ⟨i, d, hdeed, hentry⟩ := mem_trace.mp h
  cases d with
  | answered id published => exact ⟨i, id, published, hdeed⟩
  | _ => simp [Deed.asked?] at hentry

theorem exists_learns (registry : Registry α) {i : Nat} {id : String} {published : Bool}
    (h : x.deed? env = some (i, .answered id published)) :
    ∃ e, x.Learns env registry i e published ∧ e.id = id := by
  obtain ⟨e, a, b, hpasses, hstep⟩ := exists_passes_of_deed? registry h
  obtain ⟨rfl, f, rfl, rfl⟩ := hstep.stages_of_answered
  exact ⟨e, ⟨mem_trace.mpr ⟨i, _, h, rfl⟩, f, hpasses⟩, rfl⟩

theorem Learns.deed?_eq {i : Nat} {e : Envelope} {published : Bool}
    (h : x.Learns env registry i e published) :
    x.deed? env = some (i, .answered e.id published) := by
  obtain ⟨hasked, f, hpasses⟩ := h
  obtain ⟨j, id, answer, hanswered⟩ := exists_answered hasked
  obtain ⟨d, hdeed, hstep⟩ := hpasses.exists_step (by cases published <;> simp)
  rw [hanswered] at hdeed
  obtain ⟨d, rfl, heq⟩ := Option.map_eq_some_iff.mp hdeed.symm
  obtain ⟨rfl, rfl⟩ := Prod.mk.inj heq
  obtain ⟨rfl, f', hf, hnext⟩ := hstep.stages_of_answered
  rw [hanswered]
  cases published <;> cases answer
  · rfl
  · simp at hnext
  · simp at hnext
  · rfl

theorem not_starts_of_deedsOf {h : List (Moment α σ)} {i : Nat}
    (hidle : ∀ d ∈ deedsOf env i h, d.started? = none) :
    ∀ x ∈ h, ∀ e, ¬ x.Starts env registry i e := by
  intro x hx e hstarts
  obtain ⟨d, hdeed, hstarted⟩ := starts_iff.mp hstarts
  rw [hidle d (mem_deedsOf.mpr ⟨x, hx, hdeed⟩)] at hstarted
  simp at hstarted

end Moment

namespace Dispatches

variable {env : Surroundings α σ} {env' : Surroundings α (σ × List κ)}
  {keep : TraceEntry α → Option κ} {registry : Registry α}

/-- The moments of a run. -/
def moments (env : Surroundings α σ) (registry : Registry α) (s : Dispatches α σ) :
    List Move → List (Moment α σ)
  | [] => []
  | m :: moves => ⟨s, m⟩ :: moments env registry (s.move env registry m) moves

theorem run_append (s : Dispatches α σ) (moves rest : List Move) :
    s.run env registry (moves ++ rest) = (s.run env registry moves).run env registry rest :=
  List.foldl_append

theorem moments_append (s : Dispatches α σ) (moves rest : List Move) :
    s.moments env registry (moves ++ rest) =
      s.moments env registry moves ++ (s.run env registry moves).moments env registry rest := by
  induction moves generalizing s with
  | nil => rfl
  | cons m moves ih => exact congrArg (_ :: ·) (ih _)

/-- A moment of a run comes after some of its moves and before the others. -/
theorem exists_moves_of_moments {s : Dispatches α σ} {moves : List Move}
    {before after : List (Moment α σ)} {x : Moment α σ}
    (h : s.moments env registry moves = before ++ x :: after) :
    ∃ first rest, moves = first ++ x.move :: rest ∧ before = s.moments env registry first ∧
      x.before = s.run env registry first ∧
        s.run env registry moves = (x.after env registry).run env registry rest := by
  induction moves generalizing s before with
  | nil => simp [moments] at h
  | cons m moves ih =>
      rw [moments] at h
      cases before with
      | nil =>
          obtain ⟨rfl, -⟩ := List.cons.inj h
          exact ⟨[], moves, rfl, rfl, rfl, rfl⟩
      | cons y before =>
          obtain ⟨rfl, htail⟩ := List.cons.inj h
          obtain ⟨first, rest, rfl, rfl, hbefore, hrun⟩ := ih htail
          exact ⟨m :: first, rest, rfl, rfl, hbefore, hrun⟩

theorem exists_moves_of_mem {s : Dispatches α σ} {moves : List Move} {x : Moment α σ}
    (h : x ∈ s.moments env registry moves) :
    ∃ first rest, moves = first ++ x.move :: rest ∧ x.before = s.run env registry first ∧
      s.run env registry moves = (x.after env registry).run env registry rest := by
  obtain ⟨before, after, heq⟩ := List.append_of_mem h
  obtain ⟨first, rest, hmoves, -, hbefore, hrun⟩ := exists_moves_of_moments heq
  exact ⟨first, rest, hmoves, hbefore, hrun⟩

/-- A run is the same beside a record, which holds what is kept of the traces of its moments. -/
theorem run_records (h : env'.Records env keep) (s : Dispatches α σ) (moves : List Move)
    (record : List κ) :
    (s.beside record).run env' registry moves =
      (s.run env registry moves).beside (record ++
        ((s.moments env registry moves).flatMap (Moment.trace env registry)).filterMap keep) := by
  induction moves generalizing s record with
  | nil => exact congrArg (s.beside ·) (List.append_nil record).symm
  | cons m moves ih =>
      have hfirst : (Moment.trace env registry ⟨s, m⟩).filterMap keep =
          ((s.deed? env m).bind fun x => x.2.asked?.bind keep).toList := by
        rw [Moment.trace_eq, filterMap_toList, Option.bind_assoc]
        rfl
      change ((s.beside record).move env' registry m).run env' registry moves = _
      rw [move_records h, ih, moments, List.flatMap_cons, List.filterMap_append, hfirst,
        List.append_assoc]
      rfl

end Dispatches

end SmsGateway
