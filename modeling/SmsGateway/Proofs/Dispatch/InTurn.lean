import SmsGateway.Proofs.Dispatch.Overlap
import SmsGateway.Proofs.Dispatch.Undisturbed

namespace SmsGateway

variable {α σ : Type}

namespace Stage

variable {env : Surroundings α σ} {registry : Registry α} {e : Envelope} {s s' : Stage α}
  {log log' : EventLog}

theorem Step.isPublished_of_isOpen {d : Option (Deed α)}
    (h : Step env registry e s log d s' log') (hopen : s.IsOpen → log.isPublished e.id = false) :
    s'.IsOpen → log'.isPublished e.id = false := by
  cases h with
  | refuseCreate _ =>
      intro hafter
      split at hafter <;> exact absurd hafter id
  | create hcreate =>
      intro _
      rw [EventLog.isPublished_create hcreate, EventLog.isPublished,
        (EventLog.create_eq_ok_iff.mp hcreate).1]
      rfl
  | lookupUnpublished hunpublished => exact fun _ => hunpublished
  | begin | tell _ | hang _ | finish _ _ | stall _ _ => exact fun _ => hopen trivial
  | _ => exact fun hafter => absurd hafter id

theorem Step.result?_eq_none {d : Deed α} (h : Step env registry e s log (some d) s' log') :
    s.result? = none := by
  cases h <;> rfl

theorem Step.result?_eq_some {d : Option (Deed α)} {r : Except Failure Unit}
    (h : Step env registry e s log d s' log') (hended : s.result? = some r) :
    s'.result? = some r := by
  cases h with
  | rest => exact hended
  | _ => simp [result?] at hended

end Stage

/-- A call that may still take steps. -/
def DispatchCall.IsLive (call : DispatchCall α) : Prop :=
  call.dropped = false ∧ call.stage.result? = none

instance (call : DispatchCall α) : Decidable call.IsLive :=
  inferInstanceAs (Decidable (_ ∧ _))

namespace Dispatches

/-- Nobody is under way. -/
def IsQuiet (s : Dispatches α σ) : Prop :=
  ∀ call ∈ s.calls, ¬ call.IsLive

instance (s : Dispatches α σ) : Decidable s.IsQuiet :=
  inferInstanceAs (Decidable (∀ call ∈ s.calls, ¬ call.IsLive))

/-- Whether a move waits for its turn: an event is handed in when nobody is under way. -/
def Waits (s : Dispatches α σ) : Move → Prop
  | .submit _ => s.IsQuiet
  | _ => True

instance (s : Dispatches α σ) : (m : Move) → Decidable (s.Waits m)
  | .submit _ => inferInstanceAs (Decidable s.IsQuiet)
  | .advance _ | .tell _ _ | .drop _ => isTrue trivial

/-- Calls that take turns. -/
def TakesTurns (env : Surroundings α σ) (registry : Registry α) :
    Dispatches α σ → List Move → Prop
  | _, [] => True
  | s, m :: moves => s.Waits m ∧ TakesTurns env registry (s.move env registry m) moves

instance decidableTakesTurns (env : Surroundings α σ) (registry : Registry α) :
    (s : Dispatches α σ) → (moves : List Move) → Decidable (TakesTurns env registry s moves)
  | _, [] => isTrue trivial
  | s, m :: moves =>
      have := decidableTakesTurns env registry (s.move env registry m) moves
      inferInstanceAs (Decidable (_ ∧ _))

variable {env : Surroundings α σ} {registry : Registry α}

theorem takesTurns_append {s : Dispatches α σ} {moves rest : List Move} :
    TakesTurns env registry s (moves ++ rest) ↔
      TakesTurns env registry s moves ∧
        TakesTurns env registry (s.run env registry moves) rest := by
  induction moves generalizing s with
  | nil => exact (and_iff_right trivial).symm
  | cons m moves ih =>
      rw [List.cons_append, TakesTurns, TakesTurns, ih, and_assoc]
      rfl

theorem not_dropped_of_deed? {s : Dispatches α σ} {m : Move} {i : Nat} {d : Deed α}
    (h : s.deed? env m = some (i, d)) {call : DispatchCall α} (hcall : s.calls[i]? = some call) :
    call.dropped = false := by
  cases m with
  | submit e | drop j => simp [deed?] at h
  | advance j | tell j k =>
      simp only [deed?] at h
      repeat' split at h
      all_goals grind [Option.map_eq_some_iff]

/-- One call at most is under way, and its event is not published while it is open. -/
structure InTurn (s : Dispatches α σ) : Prop where
  alone : ∀ (i j : Nat) call other, s.calls[i]? = some call → s.calls[j]? = some other →
    call.IsLive → other.IsLive → i = j
  unpublished : ∀ (i : Nat) call, s.calls[i]? = some call → call.IsLive → call.stage.IsOpen →
    s.world.log.isPublished call.event.id = false

theorem inTurn_start (notices : List Notice) (outside : σ) :
    (start notices outside : Dispatches α σ).InTurn where
  alone i j call other hcall := by simp [start] at hcall
  unpublished i call hcall := by simp [start] at hcall

theorem InTurn.submit {s : Dispatches α σ} (hquiet : s.IsQuiet) (e : Envelope) :
    InTurn { s with calls := s.calls ++ [⟨e, .received, false⟩] } := by
  have hlast : ∀ (i : Nat) call, (s.calls ++ [⟨e, .received, false⟩])[i]? = some call →
      call.IsLive → i = s.calls.length ∧ call = ⟨e, .received, false⟩ := by
    intro i call hcall hlive
    rw [List.getElem?_append] at hcall
    split at hcall
    · exact absurd hlive (hquiet call (List.mem_of_getElem? hcall))
    · next hi =>
        have hcall' := List.mem_singleton.mp (List.mem_of_getElem? hcall)
        obtain ⟨hlt, -⟩ := List.getElem?_eq_some_iff.mp hcall
        rw [List.length_singleton] at hlt
        exact ⟨by omega, hcall'⟩
  constructor
  · intro i j call other hcall hother hlive hlive'
    rw [(hlast i call hcall hlive).1, (hlast j other hother hlive').1]
  · intro i call hcall hlive hopen
    rw [(hlast i call hcall hlive).2] at hopen
    exact absurd hopen id

theorem live_of_set {calls : List (DispatchCall α)} {i j : Nat} {call call' other : DispatchCall α}
    (hcall : calls[i]? = some call) (hkept : call'.IsLive → call.IsLive)
    (hother : (calls.set i call')[j]? = some other) (hlive : other.IsLive) :
    ∃ before, calls[j]? = some before ∧ before.IsLive ∧
      (j = i ∧ before = call ∧ other = call' ∨ j ≠ i ∧ other = before) := by
  rw [List.getElem?_set] at hother
  split at hother
  · next hij =>
      subst hij
      split at hother
      · obtain rfl := Option.some.inj hother
        exact ⟨call, hcall, hkept hlive, .inl ⟨rfl, rfl, rfl⟩⟩
      · simp at hother
  · next hij => exact ⟨other, hother, hlive, .inr ⟨Ne.symm hij, rfl⟩⟩

theorem InTurn.drop {s : Dispatches α σ} (h : s.InTurn) {i : Nat} {call : DispatchCall α}
    (hcall : s.calls[i]? = some call) :
    InTurn { s with calls := s.calls.set i { call with dropped := true } } := by
  have hkept : DispatchCall.IsLive { call with dropped := true } → call.IsLive := by
    rintro ⟨hdropped, -⟩
    simp at hdropped
  constructor
  · intro j k other third hother hthird hlive hlive'
    obtain ⟨before, hbefore, hlive, -⟩ := live_of_set hcall hkept hother hlive
    obtain ⟨before', hbefore', hlive', -⟩ := live_of_set hcall hkept hthird hlive'
    exact h.alone j k before before' hbefore hbefore' hlive hlive'
  · intro j other hother hlive hopen
    obtain ⟨before, hbefore, hlive', ⟨-, -, rfl⟩ | ⟨-, rfl⟩⟩ := live_of_set hcall hkept hother hlive
    · exact absurd hlive.1 (by simp)
    · exact h.unpublished j other hbefore hlive' hopen

theorem InTurn.step {s : Dispatches α σ} (h : s.InTurn) {i : Nat} {call : DispatchCall α}
    {d : Option (Deed α)} {after : Stage α × World σ} (hcall : s.calls[i]? = some call)
    (hstep : Stage.Step env registry call.event call.stage s.world.log d after.1 after.2.log)
    (hdone : ∀ x, d = some x → call.dropped = false) : InTurn (s.withCall i call after) := by
  have hkept : DispatchCall.IsLive { call with stage := after.1 } → call.IsLive := by
    rintro ⟨hdropped, hrunning⟩
    refine ⟨hdropped, ?_⟩
    rw [Option.eq_none_iff_forall_ne_some] at hrunning ⊢
    intro r hended
    exact hrunning r (hstep.result?_eq_some hended)
  constructor
  · intro j k other third hother hthird hlive hlive'
    obtain ⟨before, hbefore, hlive, -⟩ := live_of_set hcall hkept hother hlive
    obtain ⟨before', hbefore', hlive', -⟩ := live_of_set hcall hkept hthird hlive'
    exact h.alone j k before before' hbefore hbefore' hlive hlive'
  · intro j other hother hlive hopen
    obtain ⟨before, hbefore, hlive', ⟨rfl, rfl, rfl⟩ | ⟨hij, rfl⟩⟩ :=
      live_of_set hcall hkept hother hlive
    · exact hstep.isPublished_of_isOpen (h.unpublished j before hbefore hlive') hopen
    · -- nobody else does anything while this call is under way
      have hnone : d = none := by
        rw [Option.eq_none_iff_forall_ne_some]
        rintro x rfl
        have hrunning : call.IsLive := ⟨hdone x rfl, hstep.result?_eq_none⟩
        exact hij (h.alone j i other call hbefore hcall hlive hrunning)
      subst hnone
      rw [withCall, hstep.log_eq (by simp)]
      exact h.unpublished j other hbefore hlive' hopen

theorem exists_submit_of_length_lt {s : Dispatches α σ} {m : Move}
    (h : s.calls.length < (s.move env registry m).calls.length) : ∃ e, m = .submit e := by
  cases m with
  | submit e => exact ⟨e, rfl⟩
  | advance i | tell i j | drop i =>
      simp only [move, withCall] at h
      repeat' split at h
      all_goals simp at h

theorem InTurn.move {s : Dispatches α σ} (hturn : s.InTurn) {m : Move} (hwaits : s.Waits m) :
    (s.move env registry m).InTurn := by
  have hchange := change_move env registry s m
  have hdone := fun i d (hdeed : s.deed? env m = some (i, d)) call
    (hcall : s.calls[i]? = some call) => not_dropped_of_deed? hdeed hcall
  have hadded (hlt : s.calls.length < (s.move env registry m).calls.length) : s.IsQuiet := by
    obtain ⟨e, rfl⟩ := exists_submit_of_length_lt hlt
    exact hwaits
  generalize s.deed? env m = d, s.move env registry m = s' at hchange hdone hadded ⊢
  cases hchange with
  | submit e => exact .submit (hadded (by simp)) e
  | drop hcall => exact hturn.drop hcall
  | idle => exact hturn
  | step hcall hstep =>
      refine hturn.step hcall hstep ?_
      rintro x rfl
      exact hdone _ x rfl _ hcall

theorem inTurn_run (notices : List Notice) (outside : σ) {moves : List Move}
    (hturns : TakesTurns env registry (start notices outside) moves) :
    ((start notices outside).run env registry moves).InTurn := by
  induction moves using List.reverseRecOn with
  | nil => exact inTurn_start notices outside
  | append_singleton moves m ih =>
      obtain ⟨hbefore, hlast⟩ := takesTurns_append.mp hturns
      rw [run_append]
      exact (ih hbefore).move hlast.1

theorem InTurn.isPublished_eq_false {x : Moment α σ} (hturn : x.before.InTurn) {i : Nat}
    {e : Envelope} (h : x.Starts env registry i e ∨ x.Marks env registry i e) :
    x.before.world.log.isPublished e.id = false := by
  obtain ⟨d, call, a, hdeed, hcall, hopen, hrunning, hid⟩ :
      ∃ (d : Deed α) (call : DispatchCall α) (a : Stage α), x.deed? env = some (i, d) ∧
        x.before.calls[i]? = some call ∧ call.stage.IsOpen ∧ call.stage.result? = none ∧
          call.event = e := by
    rcases h with hstarts | ⟨summary, ⟨dropped, hcall⟩, hafter⟩
    · obtain ⟨d, hdeed, hstarted⟩ := Moment.starts_iff.mp hstarts
      obtain ⟨e', a, b, ⟨⟨dropped, hcall⟩, -⟩, hstep⟩ :=
        Moment.exists_passes_of_deed? registry hdeed
      obtain ⟨hopen, rfl⟩ := hstep.isOpen_of_started hstarted
      exact ⟨d, _, a, hdeed, hcall, hopen, hstep.result?_eq_none, rfl⟩
    · have hmarks : x.Marks env registry i e := ⟨summary, ⟨dropped, hcall⟩, hafter⟩
      exact ⟨_, _, .published summary, hmarks.deed?_eq, hcall, trivial, rfl, rfl⟩
  rw [← hid]
  exact hturn.unpublished i call hcall ⟨not_dropped_of_deed? hdeed hcall, hrunning⟩ hopen

theorem published_iff_succeeded (hhonest : env.FeignsNoDuplicate) (notices : List Notice)
    (outside : σ) (moves : List Move) (id : String) :
    ((start notices outside).run env registry moves).world.log.isPublished id = true ↔
      ∃ (i : Nat) (call : DispatchCall α),
        ((start notices outside).run env registry moves).calls[i]? = some call ∧
          call.event.id = id ∧ call.stage = .ended (.ok ()) := by
  have ht : Tracked env registry _ _ := tracked_run hhonest notices outside moves
  constructor
  · intro hpublished
    obtain ⟨x, hx, i, e, hmarks, rfl⟩ := (published_iff_run moves id).mp hpublished
    have hmarked := Moment.mem_deedsOf.mpr ⟨x, hx, hmarks.deed?_eq⟩
    obtain ⟨call, hcall⟩ := ht.exists_call hmarked
    obtain ⟨hid, hended⟩ := (ht.progress i call hcall).of_marked hmarked
    exact ⟨i, call, hcall, hid.symm, hended⟩
  · rintro ⟨i, call, hcall, rfl, hstage⟩
    exact (hstage ▸ ht.progress i call hcall).of_succeeded.2

/-- What becomes of the marked ids of calls: only a dispatch that succeeded has marked one, and
further moves neither tell of it nor mark it again. -/
structure AtRest (env : Surroundings α σ) (registry : Registry α) (s : Dispatches α σ)
    (rest : List Move) : Prop where
  succeeded : ∀ id, s.world.log.isPublished id = true ↔
    ∃ (i : Nat) (call : DispatchCall α), s.calls[i]? = some call ∧ call.event.id = id ∧
      call.stage = .ended (.ok ())
  untouched : ∀ id, s.world.log.isPublished id = true → ∀ x ∈ s.moments env registry rest,
    ∀ i e, x.Starts env registry i e ∨ x.Marks env registry i e → e.id ≠ id

theorem atRest_run (hhonest : env.FeignsNoDuplicate) (notices : List Notice) (outside : σ)
    {moves rest : List Move}
    (hturns : TakesTurns env registry (start notices outside) (moves ++ rest)) :
    AtRest env registry ((start notices outside).run env registry moves) rest := by
  refine ⟨published_iff_succeeded hhonest notices outside moves, ?_⟩
  rintro id hpublished x hx i e h rfl
  obtain ⟨first, last, rfl, hbefore, -⟩ := exists_moves_of_mem hx
  rw [← List.append_assoc] at hturns
  have hturn := inTurn_run notices outside (takesTurns_append.mp hturns).1
  rw [run_append, ← hbefore] at hturn
  have hkept : x.before.world.log.isPublished e.id = true := by
    rw [hbefore]
    exact (growsInto_run _ first).isPublished hpublished
  rw [hturn.isPublished_eq_false h] at hkept
  simp at hkept

end Dispatches

/-- Whatever log calls fail, a dispatch that nothing comes between goes the way that the rules and
the log give it; and of dispatches that take turns, wherever they are dropped, none tells of an
event whose id was marked. -/
theorem settles_and_rests (env : Surroundings α σ) (hhonest : env.FeignsNoDuplicate) :
    (∀ (d : Dispatcher α) e w, d.Settles env e w) ∧
      ∀ (registry : Registry α) notices outside moves rest,
        Dispatches.TakesTurns env registry (.start notices outside) (moves ++ rest) →
          Dispatches.AtRest env registry
            ((Dispatches.start notices outside).run env registry moves) rest := by
  constructor
  · intro d e w
    exact Dispatcher.settles hhonest
  · intro registry notices outside moves rest hturns
    exact Dispatches.atRest_run hhonest notices outside hturns

/-- An event that is recorded and not published is told to its listener, though the database is
locked when it is to be marked. Of four calls in turn the first is dropped after it recorded the
event, the second finds the database locked when it marks, and the third succeeds; the fourth then
tells nobody. -/
theorem settles_and_rests_redelivery :
    let e := Envelope.create "event-1" "message.phone.sent" "/v1/messages" none
    let registry := Registry.empty.subscribe "message.phone.sent" "webhook"
    let d : Dispatcher String := ⟨"https://consumer.example", "key", registry⟩
    let w : World (List Bool) := ⟨⟨[.ofEnvelope e]⟩, [], [false, false, true]⟩
    let call (i : Nat) : List Move := .submit e :: List.replicate 7 (.advance i)
    let moves : List Move :=
      [.submit e, .advance 0, .advance 0, .advance 0, .drop 0] ++ call 1 ++ call 2
    let script := [false, false, false, true]
    flakyLog.FeignsNoDuplicate ∧ (∃ turns refusal, d.TellsAll flakyLog e w turns refusal) ∧
      Dispatches.TakesTurns flakyLog registry (.start [] script) (moves ++ call 3) ∧
        Dispatches.AtRest flakyLog registry
          ((Dispatches.start [] script).run flakyLog registry moves) (call 3) := by
  intro e registry d w call moves script
  have hturns : Dispatches.TakesTurns flakyLog registry (.start [] script) (moves ++ call 3) := by
    decide +kernel
  obtain ⟨hsettles, hrests⟩ := settles_and_rests flakyLog flakyLog_feignsNoDuplicate
  refine ⟨flakyLog_feignsNoDuplicate, ?_, hturns, hrests registry [] script moves _ hturns⟩
  refine (hsettles d e w).of_unpublished (by decide +kernel) rfl (by decide +kernel)
    (fun _ => rfl) ?_
  have hcomplete : flakyLog.CompletesAll registry e := fun _ _ _ _ => rfl
  exact Dispatcher.completed_of_turn hcomplete

end SmsGateway
