import SmsGateway.Proofs.Dispatch.Unheard
import SmsGateway.Proofs.Server.Delivery

namespace SmsGateway.Server

open SmsGateway.Http

variable {α σ σ' ν : Type} {s : Server α} {env : Surroundings α σ} {env' : Surroundings α σ'}
  {script : LogCall → ν → Option Failure × ν} {view : σ → ν} {view' : σ' → ν} {w : World σ}
  {w' : World σ'}

/-- The answers to some requests, one after the other. -/
def answers (s : Server α) (env : Surroundings α σ) :
    List Request → World σ → List (Option Response)
  | [], _ => []
  | r :: rs, w => (s.handle env r w).1 :: s.answers env rs (s.handle env r w).2

/-- The same answer in two worlds, which are left alike. -/
structure SameAnswer (view : σ → ν) (view' : σ' → ν) (a : Option Response × World σ)
    (a' : Option Response × World σ') : Prop where
  answered : a.1.isSome
  answer : a.1 = a'.1
  world : a.2.Alike view view' a'.2

theorem SameAnswer.map {a : Option Response × World σ} {a' : Option Response × World σ'}
    (h : SameAnswer view view' a a') (f : Response → Response) :
    SameAnswer view view' (a.1.map f, a.2) (a'.1.map f, a'.2) := by
  refine ⟨?_, congrArg (Option.map f) h.answer, h.world⟩
  rw [Option.isSome_map]
  exact h.answered

theorem sameAnswer_of_alike (hlike : w.Alike view view' w') (response : Response) :
    SameAnswer view view' (some response, w) (some response, w') :=
  ⟨rfl, rfl, hlike⟩

theorem sameAnswer_consume (hfails : env.FailsBy script view)
    (hfails' : env'.FailsBy script view')
    (hcomplete : ∀ e, env.CompletesAll s.dispatcher.registry e)
    (hcomplete' : ∀ e, env'.CompletesAll s.dispatcher.registry e)
    (hlike : w.Alike view view' w') (r : Request) :
    SameAnswer view view' (s.consume env r w) (s.consume env' r w') := by
  rw [consume, consume]
  cases s.delivered r with
  | error response => exact sameAnswer_of_alike hlike response
  | ok e =>
      obtain ⟨result, hresult, hresult', hagree⟩ :=
        Dispatcher.dispatchSync_agree hfails hfails' hlike (hcomplete e) (hcomplete' e)
      rw [Dispatcher.dispatchSync_traced, Dispatcher.dispatchSync_traced] at hagree
      refine ⟨?_, ?_, hagree.log, hagree.outside⟩
      · change ((s.dispatcher.dispatchSync env e w).1.map _).isSome = true
        rw [hresult]
        rfl
      · change (s.dispatcher.dispatchSync env e w).1.map _ =
          (s.dispatcher.dispatchSync env' e w').1.map _
        rw [hresult, hresult']

theorem sameAnswer_showEvent (hfails : env.FailsBy script view)
    (hfails' : env'.FailsBy script view') (hlike : w.Alike view view' w') (id : List Char) :
    SameAnswer view view' (some (showEvent env id w).1, (showEvent env id w).2)
      (some (showEvent env' id w').1, (showEvent env' id w').2) := by
  rw [showEvent, showEvent]
  cases Route.decodedId? id with
  | none => exact sameAnswer_of_alike hlike _
  | some id =>
      obtain ⟨hanswer, hworld⟩ := hlike.load hfails hfails' id
      dsimp only
      generalize w.load env id = a, w'.load env' id = a' at hanswer hworld
      obtain ⟨answer, v⟩ := a
      obtain ⟨answer', v'⟩ := a'
      obtain rfl : answer = answer' := hanswer
      rcases answer with f | _ | e
      · exact sameAnswer_of_alike hworld _
      · exact sameAnswer_of_alike hworld _
      · exact sameAnswer_of_alike hworld _

theorem sameAnswer_handle (hfails : env.FailsBy script view)
    (hfails' : env'.FailsBy script view')
    (hcomplete : ∀ e, env.CompletesAll s.dispatcher.registry e)
    (hcomplete' : ∀ e, env'.CompletesAll s.dispatcher.registry e)
    (hlike : w.Alike view view' w') (r : Request) :
    SameAnswer view view' (s.handle env r w) (s.handle env' r w') := by
  have hserve (route : Route) :
      SameAnswer view view' (s.serve env route r w) (s.serve env' route r w') := by
    cases route with
    | health => exact sameAnswer_of_alike hlike _
    | consume => exact sameAnswer_consume hfails hfails' hcomplete hcomplete' hlike r
    | event id => exact sameAnswer_showEvent hfails hfails' hlike id
  have hletIn (route : Route) :
      SameAnswer view view' (s.letIn env route r w) (s.letIn env' route r w') := by
    rw [letIn, letIn]
    split
    · exact sameAnswer_of_alike hlike _
    · split
      · exact hserve route
      · exact sameAnswer_of_alike hlike _
  rw [handle, handle]
  cases Route.ofPath? r.path with
  | none => exact sameAnswer_of_alike hlike _
  | some route =>
      dsimp only
      split
      · exact sameAnswer_of_alike hlike _
      · exact (hletIn route).map _

theorem answers_eq (hfails : env.FailsBy script view) (hfails' : env'.FailsBy script view')
    (hcomplete : ∀ e, env.CompletesAll s.dispatcher.registry e)
    (hcomplete' : ∀ e, env'.CompletesAll s.dispatcher.registry e)
    (hlike : w.Alike view view' w') (rs : List Request) :
    s.answers env rs w = s.answers env' rs w' ∧ (∀ a ∈ s.answers env rs w, a.isSome) ∧
      (s.serveAll env rs w).Alike view view' (s.serveAll env' rs w') := by
  induction rs generalizing w w' with
  | nil => exact ⟨rfl, by simp [answers], hlike⟩
  | cons r rs ih =>
      have hsame : SameAnswer view view' (s.handle env r w) (s.handle env' r w') :=
        sameAnswer_handle hfails hfails' hcomplete hcomplete' hlike r
      obtain ⟨hanswers, hanswered, hworld⟩ := ih hsame.world
      refine ⟨?_, ?_, hworld⟩
      · rw [answers, answers, hsame.answer, hanswers]
      · exact List.forall_mem_cons.mpr ⟨hsame.answered, hanswered⟩

/-- Listeners cannot interfere. Over the same log and with the same log calls failing, every two
ways through the dispatch of an event come to the same result, make the same calls to the log and
to the listeners and leave the same log, whatever the listeners make of the event and in whichever
order they end. If all of them complete, in whatever way, the dispatch comes to a result, and
whatever requests a server gets, each of them gets the same answer. -/
theorem listeners_cannot_interfere (s : Server α) (hfails : env.FailsBy script view)
    (hfails' : env'.FailsBy script view') (hlike : w.Alike view view' w') :
    (∀ e ds ds' r r' v v',
      Stage.Course env.traced s.dispatcher.registry e .received (w.beside []) ds (.ended r) v →
        Stage.Course env'.traced s.dispatcher.registry e .received (w'.beside []) ds' (.ended r')
            v' → Stage.Agree s.dispatcher.registry e view view' r r' v v') ∧
    ((∀ e, env.CompletesAll s.dispatcher.registry e) →
      (∀ e, env'.CompletesAll s.dispatcher.registry e) →
        (∀ e, ∃ r, (s.dispatcher.dispatchSync env e w).1 = some r ∧
          (s.dispatcher.dispatchSync env' e w').1 = some r ∧
            Stage.Agree s.dispatcher.registry e view view' r r
              (s.dispatcher.dispatchSync env.traced e (w.beside [])).2
              (s.dispatcher.dispatchSync env'.traced e (w'.beside [])).2) ∧
        ∀ rs, s.answers env rs w = s.answers env' rs w' ∧ (∀ a ∈ s.answers env rs w, a.isSome) ∧
          (s.serveAll env rs w).Alike view view' (s.serveAll env' rs w')) := by
  refine ⟨?_, ?_⟩
  · intro e ds ds' r r' v v' h h'
    exact h.agree hfails hfails' hlike h'
  · intro hcomplete hcomplete'
    refine ⟨?_, ?_⟩
    · intro e
      exact Dispatcher.dispatchSync_agree hfails hfails' hlike (hcomplete e) (hcomplete' e)
    · intro rs
      exact answers_eq hfails hfails' hcomplete hcomplete' hlike rs

/-- A log as in `flakyLog`, and listeners that fail in every way, one of them with the failure of a
log that holds the event already. -/
def unruly : Surroundings String (List Bool × Nat) where
  refuse c o := ((flakyLog.refuse c o.1).1, (flakyLog.refuse c o.1).2, o.2)
  name := id
  handle listener e _ o :=
    (some (if listener = "complains" then .failed (Failure.duplicateEvent e.id).text
      else if listener = "panics" then .panicked else .lost), o.1, o.2 + 1)
  enqueue _ _ o := (.ok "task-1", o)

/-- An event that is delivered twice to three listeners, and the first time cannot be marked. -/
theorem listeners_cannot_interfere_unruly :
    let e := Envelope.create "event-1" "message.phone.sent" "/v1/messages" none
    let r : Request :=
      ⟨"POST", "/v1/events/consume", [("X-Api-Key", Text.bytes "secret")], e.wireBytes⟩
    let registry := ((Registry.empty.subscribe "message.phone.sent" "complains").subscribe
      "message.phone.sent" "panics").subscribe "message.phone.sent" "vanishes"
    let s : Server String := ⟨"secret", "", "secret", registry⟩
    let w : World (List Bool) := ⟨.empty, [], [false, true]⟩
    let w' : World (List Bool × Nat) := ⟨.empty, [], [false, true], 0⟩
    flakyLog.FailsBy flakyLog.refuse id ∧ unruly.FailsBy flakyLog.refuse Prod.fst ∧
      w.Alike id Prod.fst w' ∧ (∀ e, flakyLog.CompletesAll registry e) ∧
      (∀ e, unruly.CompletesAll registry e) ∧
      s.answers flakyLog [r, r] w = s.answers unruly [r, r] w' ∧
      (s.answers unruly [r, r] w').map (Option.map Response.status) = [some 500, some 200] ∧
      (s.serveAll unruly [r, r] w').outside.2 = 6 := by
  intro e r registry s w w'
  have hfails : flakyLog.FailsBy flakyLog.refuse id := ⟨fun _ _ => rfl, fun _ _ _ _ => rfl⟩
  have hfails' : unruly.FailsBy flakyLog.refuse Prod.fst := ⟨fun _ _ => rfl, fun _ _ _ _ => rfl⟩
  have hlike : w.Alike id Prod.fst w' := ⟨rfl, rfl⟩
  have hcomplete : ∀ e, flakyLog.CompletesAll registry e := fun _ _ _ _ _ => rfl
  have hcomplete' : ∀ e, unruly.CompletesAll registry e := fun _ _ _ _ _ => rfl
  obtain ⟨-, hagree⟩ := listeners_cannot_interfere s hfails hfails' hlike
  obtain ⟨-, hanswers⟩ := hagree hcomplete hcomplete'
  exact ⟨hfails, hfails', hlike, hcomplete, hcomplete', (hanswers [r, r]).1, by decide +kernel,
    by decide +kernel⟩

end SmsGateway.Server
