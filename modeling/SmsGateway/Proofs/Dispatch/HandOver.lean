import SmsGateway.Proofs.Delivery.Task
import SmsGateway.Proofs.Dispatch.Healthy

namespace SmsGateway

variable {α σ : Type}

/-- A call of a dispatcher. -/
inductive DispatcherCall (α : Type) where
  /-- The log was asked for something, whether it refused or not. -/
  | asked (c : LogCall)
  /-- A listener was started. -/
  | told (listener : α) (e : Envelope)
  /-- A task was handed to the push queue, to be delivered after a delay. -/
  | queued (t : DeliveryTask) (delay : Time.Span)

/-- The same surroundings, with all calls on record that they get. -/
def Surroundings.onRecord (env : Surroundings α σ) :
    Surroundings α (σ × List (DispatcherCall α)) where
  refuse c o :=
    let (refusal, outside) := env.refuse c o.1
    (refusal, outside, o.2 ++ [.asked c])
  name := env.name
  handle listener e log o :=
    let (outcome, outside) := env.handle listener e log o.1
    (outcome, outside, o.2 ++ [.told listener e])
  enqueue t delay o :=
    let (answer, outside) := env.enqueue t delay o.1
    (answer, outside, o.2 ++ [.queued t delay])

def World.onRecord (w : World σ) (calls : List (DispatcherCall α)) :
    World (σ × List (DispatcherCall α)) :=
  ⟨w.log, w.notices, w.outside, calls⟩

namespace Dispatcher

open Text (isBlankText_iff isBlankText_eq_false_iff)

/-- What is made of a queue's answer with a blank id. -/
def emptyTaskId : Failure := .rejected "push queue returned an empty task id"

/-- The calls that handing an event over takes. -/
def callsFor (d : Dispatcher α) (e : Envelope) (delay : Time.Span) : List (DispatcherCall α) :=
  match e.validate with
  | .ok () => [.queued (.forEvent e d.endpoint d.key) delay]
  | .error _ => []

theorem callsFor_of_kept {d : Dispatcher α} {e : Envelope} {delay : Time.Span}
    (h : e.validate = .ok ()) :
    d.callsFor e delay = [.queued (.forEvent e d.endpoint d.key) delay] := by
  rw [callsFor, h]

theorem callsFor_of_broken {d : Dispatcher α} {e : Envelope} {delay : Time.Span}
    (h : e.validate ≠ .ok ()) : d.callsFor e delay = [] := by
  rw [callsFor]
  cases hrules : e.validate with
  | error f => rfl
  | ok u => exact absurd hrules h

theorem afterEnqueue_of_blank {id : String} (h : Text.isBlankText id = true) :
    (afterEnqueue (.ok id)).1 = .error emptyTaskId := by
  rw [afterEnqueue, if_pos h]
  rfl

theorem afterEnqueue_of_not_blank {id : String} (h : Text.isBlankText id = false) :
    (afterEnqueue (.ok id)).1 = .ok id := by
  rw [afterEnqueue, if_neg (Bool.eq_false_iff.mp h)]

theorem afterEnqueue_eq_ok_iff {answer : Except Failure String} {id : String} :
    (afterEnqueue answer).1 = .ok id ↔ answer = .ok id ∧ Text.isBlankText id = false := by
  constructor
  · intro h
    cases answer with
    | error f => cases h
    | ok id' =>
        cases hid : Text.isBlankText id' with
        | true =>
            rw [afterEnqueue_of_blank hid] at h
            cases h
        | false =>
            rw [afterEnqueue_of_not_blank hid] at h
            cases h
            exact ⟨rfl, hid⟩
  · rintro ⟨rfl, hid⟩
    exact afterEnqueue_of_not_blank hid

theorem afterEnqueue_eq_error_iff {answer : Except Failure String} {f : Failure} :
    (afterEnqueue answer).1 = .error f ↔
      answer = .error f ∨ f = emptyTaskId ∧ ∃ id, answer = .ok id ∧ Text.isBlankText id = true := by
  constructor
  · intro h
    cases answer with
    | error f' =>
        cases h
        exact .inl rfl
    | ok id =>
        cases hid : Text.isBlankText id with
        | true =>
            rw [afterEnqueue_of_blank hid] at h
            cases h
            exact .inr ⟨rfl, id, rfl, hid⟩
        | false =>
            rw [afterEnqueue_of_not_blank hid] at h
            cases h
  · rintro (rfl | ⟨rfl, id, rfl, hid⟩)
    · rfl
    · exact afterEnqueue_of_blank hid

section Answer

variable {d : Dispatcher α} {env : Surroundings α σ} {e : Envelope} {delay : Time.Span}
  {w : World σ}

theorem dispatchAfter_of_broken {f : Failure} (h : e.validate = .error f) :
    (d.dispatchAfter env e delay w).1 = .error f := by
  rw [dispatchAfter, h]

theorem dispatchAfter_of_kept (h : e.validate = .ok ()) :
    (d.dispatchAfter env e delay w).1 =
      (afterEnqueue (env.enqueue (.forEvent e d.endpoint d.key) delay w.outside).1).1 := by
  rw [dispatchAfter, h]

theorem dispatchAfter_eq_ok_iff {id : String} :
    (d.dispatchAfter env e delay w).1 = .ok id ↔
      e.validate = .ok () ∧
        (env.enqueue (.forEvent e d.endpoint d.key) delay w.outside).1 = .ok id ∧
        ∃ c ∈ id.toList, Text.isBlank c = false := by
  rw [← isBlankText_eq_false_iff]
  cases hrules : e.validate with
  | error f =>
      rw [dispatchAfter_of_broken hrules]
      simp
  | ok u =>
      rw [dispatchAfter_of_kept hrules, afterEnqueue_eq_ok_iff]
      simp

theorem dispatchAfter_eq_error_iff {f : Failure} :
    (d.dispatchAfter env e delay w).1 = .error f ↔
      e.validate = .error f ∨ e.validate = .ok () ∧
        ((env.enqueue (.forEvent e d.endpoint d.key) delay w.outside).1 = .error f ∨
          f = emptyTaskId ∧
            ∃ id, (env.enqueue (.forEvent e d.endpoint d.key) delay w.outside).1 = .ok id ∧
              ∀ c ∈ id.toList, Text.isBlank c = true) := by
  simp only [← isBlankText_iff]
  cases hrules : e.validate with
  | error f' =>
      rw [dispatchAfter_of_broken hrules]
      simp
  | ok u =>
      rw [dispatchAfter_of_kept hrules, afterEnqueue_eq_error_iff]
      simp

theorem log_dispatchAfter : (d.dispatchAfter env e delay w).2.log = w.log := by
  rw [dispatchAfter]
  cases e.validate <;> rfl

theorem dispatchAfter_onRecord (calls : List (DispatcherCall α)) :
    d.dispatchAfter env.onRecord e delay (w.onRecord calls) =
      ((d.dispatchAfter env e delay w).1,
        (d.dispatchAfter env e delay w).2.onRecord (calls ++ d.callsFor e delay)) := by
  rw [dispatchAfter, dispatchAfter, callsFor]
  cases e.validate with
  | error f =>
      rw [List.append_nil]
      rfl
  | ok u => rfl

end Answer

/-- Handing an event over calls nobody but the queue, once and with the delay if the event keeps
the rules and not at all otherwise, and leaves the log as it is. The answer is the id that the queue
gave, if something can be seen in it; else it is the rule that the event broke, the failure of the
queue, or that the id was empty. And the task is signed with the dispatcher's key, whatever method is
chosen. -/
theorem hands_over_only (d : Dispatcher α) (env : Surroundings α σ) (e : Envelope)
    (delay : Time.Span) (w : World σ) :
    let task := DeliveryTask.forEvent e d.endpoint d.key
    let answer := (env.enqueue task delay w.outside).1
    let result := (d.dispatchAfter env e delay w).1
    (∃ (after : World σ) (calls : List (DispatcherCall α)),
      d.dispatchAfter env.onRecord e delay (w.onRecord []) = (result, after.onRecord calls) ∧
        after.log = w.log ∧ (e.validate = .ok () → calls = [.queued task delay]) ∧
        (e.validate ≠ .ok () → calls = [])) ∧
      (∀ id, result = .ok id ↔
        e.validate = .ok () ∧ answer = .ok id ∧ ∃ c ∈ id.toList, Text.isBlank c = false) ∧
      (∀ f, result = .error f ↔
        e.validate = .error f ∨ e.validate = .ok () ∧ (answer = .error f ∨
          f = emptyTaskId ∧ ∃ id, answer = .ok id ∧ ∀ c ∈ id.toList, Text.isBlank c = true)) ∧
      emptyTaskId.code.text = "ENQ_001" ∧
      task.IsSigned d.key ∧ ∀ method, (task.withMethod method).IsSigned d.key := by
  intro task answer result
  have hsigned : task.IsSigned d.key := DeliveryTask.isSigned_forEvent e d.endpoint d.key
  refine ⟨⟨_, _, dispatchAfter_onRecord [], log_dispatchAfter, ?_, ?_⟩, ?_, ?_, rfl, hsigned,
    hsigned.withMethod⟩
  · intro hrules
    exact callsFor_of_kept hrules
  · intro hbroken
    exact callsFor_of_broken hbroken
  · intro id
    exact dispatchAfter_eq_ok_iff
  · intro f
    exact dispatchAfter_eq_error_iff

theorem hands_over_only_blank :
    let e := Envelope.create "event-1" "message.phone.sent" "/v1/messages" none
    let broken := { e with source := "" }
    let d : Dispatcher String :=
      ⟨"http://localhost/v1/events/consume", String.ofList (List.replicate 512 'k'), .empty⟩
    let answering (id : String) : Surroundings String Unit :=
      { calm with enqueue := fun _ _ o => (.ok id, o) }
    let w : World Unit := ⟨.empty, [], ()⟩
    let task := DeliveryTask.forEvent e d.endpoint d.key
    let delay : Time.Span := ⟨5000000000⟩
    e.validate = .ok () ∧ broken.validate = .error (.missingField "source") ∧
      (d.dispatchAfter (answering " 7\u3000") e delay w).1 = .ok " 7\u3000" ∧
      (d.dispatchAfter (answering "\u3000\u2003") e delay w).1 = .error emptyTaskId ∧
      (d.dispatchAfter (answering " 7\u3000") broken delay w).1 = .error (.missingField "source") ∧
      (∃ after : World Unit,
        (d.dispatchAfter (answering "\u3000\u2003").onRecord e delay (w.onRecord [])).2 =
          after.onRecord [.queued task delay]) ∧
      (∃ after : World Unit,
        (d.dispatchAfter (answering " 7\u3000").onRecord broken delay (w.onRecord [])).2 =
          after.onRecord []) ∧
      (task.withMethod .put).IsSigned d.key := by
  intro e broken d answering w task delay
  have hrules : e.validate = .ok () := by decide +kernel
  have hbroken : broken.validate = .error (.missingField "source") := by decide +kernel
  obtain ⟨-, hvisible, -⟩ := hands_over_only d (answering " 7\u3000") e delay w
  obtain ⟨⟨after, calls, hcalls, -, honce, -⟩, -, hblank, -, -, hsigned⟩ :=
    hands_over_only d (answering "\u3000\u2003") e delay w
  obtain ⟨⟨after', calls', hcalls', -, -, hnone⟩, -, hrefused, -⟩ :=
    hands_over_only d (answering " 7\u3000") broken delay w
  obtain rfl := honce hrules
  obtain rfl := hnone (by rw [hbroken]; simp)
  have hseen : ∃ c ∈ " 7\u3000".toList, Text.isBlank c = false :=
    isBlankText_eq_false_iff.mp (by decide)
  have hunseen : ∀ c ∈ "\u3000\u2003".toList, Text.isBlank c = true :=
    isBlankText_iff.mp (by decide)
  refine ⟨hrules, hbroken, (hvisible _).mpr ⟨hrules, rfl, hseen⟩, (hblank _).mpr ?_,
    (hrefused _).mpr (.inl hbroken), ⟨after, by rw [hcalls]⟩, ⟨after', by rw [hcalls']⟩,
    hsigned .put⟩
  exact .inr ⟨hrules, .inr ⟨rfl, _, rfl, hunseen⟩⟩

end Dispatcher

end SmsGateway
