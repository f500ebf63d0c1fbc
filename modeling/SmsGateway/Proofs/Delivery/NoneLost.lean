import Mathlib.Data.List.Perm.Basic
import SmsGateway.Proofs.Delivery.Attempts
import SmsGateway.Proofs.Delivery.Ledger

/-!
No accepted task is lost. In whichever order tasks are handed in, delivered and cancelled while the
queue is being closed, each id that was handed out belongs to one task that waits or has ended. Once
the queue refuses tasks it does so for good, so whoever waits for it to be empty finds every task
ended; and a task ends without its verdict only where somebody aborts.
-/

namespace SmsGateway

variable {p : RetryPolicy}

theorem map_set_of_eq {α β : Type} {f : α → β} {l : List α} {i : Nat} {a b : α}
    (h : l[i]? = some a) (hab : f b = f a) : (l.set i b).map f = l.map f := by
  obtain ⟨hi, rfl⟩ := List.getElem?_eq_some_iff.mp h
  rw [List.map_set, hab, ← List.map_set, List.set_getElem_self]

namespace PushQueue

theorem finish_of_getElem? {q : PushQueue} {i : Nat} {t : QueuedTask}
    (h : q.waiting[i]? = some t) (ending : DeliveryEnd) :
    q.finish i ending =
      { q with waiting := q.waiting.eraseIdx i, finished := q.finished ++ [(t, ending)] } := by
  rw [finish, h]

theorem accepting_finish (q : PushQueue) (i : Nat) (ending : DeliveryEnd) :
    (q.finish i ending).accepting = q.accepting := by
  unfold finish
  split <;> rfl

end PushQueue

namespace QueueMove

def handed : QueueMove → List QueuedTask
  | .enqueue id task delay => [⟨id, task, delay⟩]
  | _ => []

def called : QueueMove → List QueueCommand
  | .call command => [command]
  | _ => []

end QueueMove

namespace SharedQueue

/-- The ids that were handed out. -/
def handedOut (s : SharedQueue) : List String :=
  s.answers.filterMap Except.toOption

/-- The commands that were called. -/
def commands (s : SharedQueue) : List QueueCommand :=
  s.calls.map (·.command)

/-- What is true of a queue with a policy, given the tasks that were handed in and the replies that
came. -/
structure Sound (p : RetryPolicy) (handed : List QueuedTask) (l : Ledger) (s : SharedQueue) :
    Prop where
  policy : s.queue.policy = p
  waiting : s.queue.waiting = s.jobs.map (·.queued)
  accounted : ∃ accepted : List QueuedTask, accepted.Sublist handed ∧
    s.handedOut = accepted.map (·.id) ∧
    accepted.Perm (s.queue.finished.map (·.1) ++ s.queue.waiting)
  underway : List.Forall₂ (·.Underway p ·) s.jobs l.underway
  endings : List.Forall₂ (fun x replies => (x.2 = .cancelled ∧ .abort ∈ s.commands) ∨
    Delivery.Ends p x.1.task replies x.2) s.queue.finished l.ended
  cancelling : s.cancelling = true → .abort ∈ s.commands
  refusing : ∀ c ∈ s.calls, c.stage ≠ .asked → s.queue.accepting = false
  emptied : ∀ c ∈ s.calls, c.command ≠ .close → c.stage = .returned → s.queue.waiting = []

variable {s : SharedQueue} {l : Ledger} {handed : List QueuedTask} {i : Nat}

theorem sound_create (p : RetryPolicy) : Sound p [] ⟨[], []⟩ (create p) where
  policy := rfl
  waiting := rfl
  accounted := ⟨[], .refl _, rfl, .refl _⟩
  underway := .nil
  endings := .nil
  cancelling := by simp [create]
  refusing := by simp [create]
  emptied := by simp [create]

theorem enqueue_of_refusing (h : s.queue.accepting = false) (id : String) (task : DeliveryTask)
    (delay : Time.Span) :
    s.enqueue id task delay = { s with answers := s.answers ++ [.error .queueClosed] } := by
  simp [enqueue, PushQueue.enqueue, h]

theorem enqueue_of_accepting (h : s.queue.accepting = true) (id : String) (task : DeliveryTask)
    (delay : Time.Span) :
    s.enqueue id task delay =
      { s with
        queue := { s.queue with waiting := s.queue.waiting ++ [⟨id, task, delay⟩] }
        jobs := s.jobs ++ [.start s.queue.policy ⟨id, task, delay⟩]
        answers := s.answers ++ [.ok id]
        notices := s.notices ++ [PushQueue.accepted id delay] } := by
  simp [enqueue, PushQueue.enqueue, h]

theorem Sound.enqueue (h : Sound p handed l s) (id : String) (task : DeliveryTask)
    (delay : Time.Span) :
    Sound p (handed ++ [⟨id, task, delay⟩]) (l.note s (.enqueue id task delay))
      (s.enqueue id task delay) := by
  obtain ⟨accepted, hsub, hids, hperm⟩ := h.accounted
  cases haccepting : s.queue.accepting with
  | false =>
      have hnote : l.note s (.enqueue id task delay) = l := by
        simp [Ledger.note, SharedQueue.move, enqueue_of_refusing haccepting]
      rw [hnote, enqueue_of_refusing haccepting]
      refine { h with accounted := ⟨accepted, ?_, ?_, hperm⟩ }
      · exact hsub.trans (List.sublist_append_left ..)
      · rw [handedOut, List.filterMap_append]
        exact (List.append_nil _).trans hids
  | true =>
      have hnote : l.note s (.enqueue id task delay) = l.start := by
        simp [Ledger.note, SharedQueue.move, enqueue_of_accepting haccepting, PushQueue.pending]
      rw [hnote, enqueue_of_accepting haccepting]
      refine { h with
        waiting := ?_
        accounted := ⟨accepted ++ [⟨id, task, delay⟩], ?_, ?_, ?_⟩
        underway := ?_
        emptied := ?_ }
      · simp [h.waiting, DeliveryJob.start]
      · exact hsub.append (.refl _)
      · rw [handedOut, List.filterMap_append, List.map_append, ← hids]
        rfl
      · rw [← List.append_assoc]
        exact hperm.append_right _
      · refine forall₂_append_singleton h.underway ?_
        rw [h.policy]
        exact DeliveryJob.underway_start _
      · -- A call that came back has made the queue refuse tasks, so none is accepted after it.
        intro c hc _ hreturned
        have hrefusing := h.refusing c hc (by simp [hreturned])
        rw [haccepting] at hrefusing
        simp at hrefusing

theorem Sound.waiting_getElem? (h : Sound p handed l s) {job : DeliveryJob}
    (hjob : s.jobs[i]? = some job) : s.queue.waiting[i]? = some job.queued := by
  rw [h.waiting, List.getElem?_map, hjob]
  rfl

theorem Sound.pending_endJob (h : Sound p handed l s) {job : DeliveryJob}
    (hjob : s.jobs[i]? = some job) (ending : DeliveryEnd) (notice : Notice) :
    (s.endJob i ending notice).queue.pending < s.queue.pending := by
  have hwaiting := h.waiting_getElem? hjob
  obtain ⟨hi, -⟩ := List.getElem?_eq_some_iff.mp hwaiting
  rw [SharedQueue.endJob, PushQueue.finish_of_getElem? hwaiting]
  dsimp only [PushQueue.pending]
  rw [List.length_eraseIdx_of_lt hi]
  omega

theorem Sound.endJob (h : Sound p handed l s) {job : DeliveryJob} (hjob : s.jobs[i]? = some job)
    {ending : DeliveryEnd} {replies : List Reply}
    (hending : (ending = .cancelled ∧ .abort ∈ s.commands) ∨
      Delivery.Ends p job.queued.task replies ending) (notice : Notice) :
    Sound p handed ⟨l.underway.eraseIdx i, l.ended ++ [replies]⟩ (s.endJob i ending notice) := by
  have hwaiting := h.waiting_getElem? hjob
  have hkept := PushQueue.finish_of_getElem? hwaiting ending
  obtain ⟨hi, hget⟩ := List.getElem?_eq_some_iff.mp hwaiting
  rw [SharedQueue.endJob, hkept]
  refine { h with waiting := ?_, accounted := ?_, underway := ?_, endings := ?_, emptied := ?_ }
  · rw [h.waiting, List.eraseIdx_map]
  · obtain ⟨accepted, hsub, hids, hperm⟩ := h.accounted
    have hsplit := List.getElem_cons_eraseIdx_perm hi
    rw [hget] at hsplit
    refine ⟨accepted, hsub, hids, ?_⟩
    rw [List.map_append, List.append_assoc]
    exact hperm.trans (hsplit.symm.append_left _)
  · exact forall₂_eraseIdx h.underway i
  · exact forall₂_append_singleton h.endings hending
  · -- The task that ends here was waiting until now, so no call can have come back.
    intro c hc hcommand hreturned
    have hempty := h.emptied c hc hcommand hreturned
    rw [hempty] at hi
    simp at hi

/-- A delivery goes on after a reply. -/
theorem Sound.repeatJob (h : Sound p handed l s) {job job' : DeliveryJob} {reply : Reply}
    {notice : Notice} (hjob : s.jobs[i]? = some job)
    (hreply : job.afterReply p reply = (.inr job', notice)) :
    Sound p handed (l.bring i reply)
      { s with jobs := s.jobs.set i job', notices := s.notices ++ [notice] } := by
  obtain ⟨-, hqueued, -⟩ := DeliveryJob.repeated_of_afterReply hreply
  refine { h with waiting := ?_, underway := ?_ }
  · dsimp only
    rw [h.waiting, map_set_of_eq hjob hqueued]
  · exact forall₂_set_modify h.underway hjob fun _ hjob => hjob.repeated hreply

theorem Sound.attempt (h : Sound p handed l s) (i : Nat) (reply : Reply) :
    Sound p handed (l.note s (.attempt i reply)) (s.attempt i reply) := by
  cases hjob : s.jobs[i]? with
  | none =>
      have hkept : s.attempt i reply = s := by rw [SharedQueue.attempt, hjob]
      have hmissing : l.underway[i]? = none := by
        rw [List.getElem?_eq_none_iff, ← h.underway.length_eq]
        exact List.getElem?_eq_none_iff.mp hjob
      rw [Ledger.note_of_repeated (by rw [hkept]), Ledger.bring_of_getElem? hmissing, hkept]
      exact h
  | some job =>
      rcases hreply : job.afterReply p reply with ⟨ending | job', notice⟩
      · obtain ⟨replies, hreplies, hunderway⟩ := exists_getElem?_of_forall₂ h.underway hjob
        have hended := attempt_of_ended hjob (h.policy ▸ hreply)
        have hpending := h.pending_endJob hjob ending notice
        rw [Ledger.note_of_ended (hended ▸ hpending), Ledger.finish_bring_of_getElem? hreplies,
          hended]
        exact h.endJob hjob (.inr (hunderway.ends hreply)) notice
      · have hrepeated := attempt_of_repeated hjob (h.policy ▸ hreply)
        rw [Ledger.note_of_repeated (by rw [hrepeated]), hrepeated]
        exact h.repeatJob hjob hreply

theorem Sound.giveUp (h : Sound p handed l s) (i : Nat) :
    Sound p handed (l.note s (.giveUp i)) (s.giveUp i) := by
  have hidle (hkept : s.giveUp i = s) : Sound p handed (l.note s (.giveUp i)) (s.giveUp i) := by
    simpa [Ledger.note, SharedQueue.move, hkept] using h
  cases hcancelling : s.cancelling with
  | false => exact hidle (by rw [SharedQueue.giveUp, hcancelling])
  | true =>
      cases hjob : s.jobs[i]? with
      | none => exact hidle (by rw [SharedQueue.giveUp, hcancelling, hjob])
      | some job =>
          obtain ⟨replies, hreplies, -⟩ := exists_getElem?_of_forall₂ h.underway hjob
          have hended := giveUp_of_cancelling hcancelling hjob
          have hpending := h.pending_endJob hjob .cancelled Delivery.cancelled
          rw [Ledger.note_of_cancelled (hended ▸ hpending), Ledger.finish_of_getElem? hreplies,
            hended]
          exact h.endJob hjob (.inl ⟨rfl, h.cancelling hcancelling⟩) _

theorem commands_withCall {command : QueueCommand} {stage : CallStage}
    (hcall : s.calls[i]? = some ⟨command, stage⟩) (stage' : CallStage) :
    (s.withCall i command stage').commands = s.commands := by
  exact map_set_of_eq hcall rfl

theorem Sound.withCall (h : Sound p handed l s) {command : QueueCommand} {stage stage' : CallStage}
    (hcall : s.calls[i]? = some ⟨command, stage⟩) (hrefusing : s.queue.accepting = false)
    (hempty : command ≠ .close → stage' = .returned → s.queue.waiting = []) :
    Sound p handed l (s.withCall i command stage') := by
  have hcommands : (s.withCall i command stage').commands = s.commands :=
    commands_withCall hcall stage'
  refine { h with endings := ?_, cancelling := ?_, refusing := ?_, emptied := ?_ }
  · rw [hcommands]
    exact h.endings
  · rw [hcommands]
    exact h.cancelling
  · exact fun _ _ _ => hrefusing
  · intro c hc
    rcases List.mem_or_eq_of_mem_set hc with hc | rfl
    · exact h.emptied c hc
    · exact hempty

theorem Sound.advance (h : Sound p handed l s) (i : Nat) : Sound p handed l (s.advance i) := by
  rw [SharedQueue.advance]
  cases hcall : s.calls[i]? with
  | none => exact h
  | some c =>
      obtain ⟨command, stage⟩ := c
      have hmem := List.mem_of_getElem? hcall
      have hrefusing := h.refusing _ hmem
      cases stage with
      | asked =>
          have hclose : Sound p handed l { s with queue := s.queue.close } :=
            { h with refusing := fun _ _ _ => rfl }
          exact hclose.withCall hcall rfl (by simp)
      | refusing =>
          have hclosed : Sound p handed l { s with closed := true } := { h with }
          exact hclosed.withCall hcall (hrefusing (by simp)) (by simp)
      | closed =>
          cases command with
          | close => exact h.withCall hcall (hrefusing (by simp)) (by simp)
          | shutdown =>
              have hnoted : Sound p handed l { s with notices := s.notices ++ [s.queue.awaited] } :=
                { h with }
              exact hnoted.withCall hcall (hrefusing (by simp)) (by simp)
          | abort =>
              -- Only here are deliveries told to give up, and the command is the call's own.
              have hcalled : .abort ∈ s.commands := List.mem_map_of_mem hmem
              have hcancelling : Sound p handed l { s with cancelling := true } :=
                { h with cancelling := fun _ => hcalled }
              exact hcancelling.withCall hcall (hrefusing (by simp)) (by simp)
      | waiting =>
          dsimp only
          split
          · rename_i hempty
            exact h.withCall hcall (hrefusing (by simp))
              fun _ _ => List.eq_nil_of_length_eq_zero hempty.2
          · exact h
      | returned => exact h

theorem commands_advance (s : SharedQueue) (i : Nat) : (s.advance i).commands = s.commands := by
  rw [SharedQueue.advance]
  split
  all_goals try split
  all_goals first
    | rfl
    | exact commands_withCall (by assumption) _

theorem commands_move (s : SharedQueue) (m : QueueMove) :
    (s.move m).commands = s.commands ++ m.called := by
  have hnone : s.commands ++ [] = s.commands := List.append_nil _
  cases m with
  | enqueue id task delay => exact hnone.symm
  | attempt i reply =>
      rw [move, SharedQueue.attempt]
      split
      · split <;> exact hnone.symm
      · exact hnone.symm
  | giveUp i =>
      rw [move, SharedQueue.giveUp]
      split <;> exact hnone.symm
  | call command => exact List.map_append
  | advance i =>
      exact (commands_advance s i).trans hnone.symm

theorem Sound.call (h : Sound p handed l s) (command : QueueCommand) :
    Sound p handed l (s.move (.call command)) := by
  have hcommands : ∀ c ∈ s.commands, c ∈ (s.move (.call command)).commands := by
    intro c hc
    rw [commands_move]
    exact List.mem_append_left _ hc
  refine { h with endings := ?_, cancelling := ?_, refusing := ?_, emptied := ?_ }
  · refine h.endings.imp fun x replies hx => ?_
    exact hx.imp_left fun hcancelled => ⟨hcancelled.1, hcommands _ hcancelled.2⟩
  · exact fun hcancelling => hcommands _ (h.cancelling hcancelling)
  · exact List.forall_mem_append.mpr ⟨h.refusing, by simp⟩
  · exact List.forall_mem_append.mpr ⟨h.emptied, by simp⟩

theorem Sound.move (h : Sound p handed l s) (m : QueueMove) :
    Sound p (handed ++ m.handed) (l.note s m) (s.move m) := by
  have hnone : handed ++ [] = handed := List.append_nil handed
  cases m with
  | enqueue id task delay => exact h.enqueue id task delay
  | attempt i reply => exact hnone.symm ▸ h.attempt i reply
  | giveUp i => exact hnone.symm ▸ h.giveUp i
  | call command => exact hnone.symm ▸ h.call command
  | advance i => exact hnone.symm ▸ h.advance i

theorem Sound.run (h : Sound p handed l s) (moves : List QueueMove) :
    Sound p (handed ++ moves.flatMap QueueMove.handed) (l.along s moves) (s.run moves) := by
  induction moves generalizing handed l s with
  | nil => exact (List.append_nil handed).symm ▸ h
  | cons m moves ih =>
      rw [List.flatMap_cons, ← List.append_assoc]
      exact ih (h.move m)

theorem refusing_move (h : s.queue.accepting = false) (m : QueueMove) :
    (s.move m).queue.accepting = false := by
  cases m with
  | enqueue id task delay =>
      rw [move, enqueue_of_refusing h]
      exact h
  | attempt i reply =>
      rw [move, SharedQueue.attempt]
      split
      · split
        · exact (PushQueue.accepting_finish ..).trans h
        · exact h
      · exact h
  | giveUp i =>
      rw [move, SharedQueue.giveUp]
      split
      · exact (PushQueue.accepting_finish ..).trans h
      · exact h
  | call command => exact h
  | advance i =>
      rw [move, SharedQueue.advance]
      split
      · rfl
      all_goals try split
      all_goals exact h

theorem refusing_run (h : s.queue.accepting = false) (moves : List QueueMove) :
    (s.run moves).queue.accepting = false := by
  induction moves generalizing s with
  | nil => exact h
  | cons m moves ih => exact ih (refusing_move h m)

theorem commands_run (s : SharedQueue) (moves : List QueueMove) :
    (s.run moves).commands = s.commands ++ moves.flatMap QueueMove.called := by
  induction moves generalizing s with
  | nil => exact (List.append_nil _).symm
  | cons m moves ih =>
      rw [List.flatMap_cons, ← List.append_assoc, ← commands_move]
      exact ih (s.move m)

theorem abort_mem_of_commands {moves : List QueueMove}
    (h : .abort ∈ ((create p).run moves).commands) : .call .abort ∈ moves := by
  rw [commands_run] at h
  obtain ⟨m, hm, hcalled⟩ := List.mem_flatMap.mp h
  cases m with
  | call command =>
      obtain rfl := List.mem_singleton.mp hcalled
      exact hm
  | _ => simp [QueueMove.called] at hcalled

/-- What is true of a queue after some moves. -/
structure NoneLost (p : RetryPolicy) (moves : List QueueMove) (s : SharedQueue) : Prop where
  /-- The accepted tasks are those that have ended and those that wait. -/
  accounted : ∃ accepted : List QueuedTask, accepted.Sublist (moves.flatMap QueueMove.handed) ∧
    s.handedOut = accepted.map (·.id) ∧
    accepted.Perm (s.queue.finished.map (·.1) ++ s.queue.waiting)
  counted : s.handedOut.length = s.queue.finished.length + s.queue.pending
  closed : ∀ c ∈ s.calls, c.stage ≠ .asked → s.queue.isClosed = true
  refuses : ∃ failure : Failure, failure.code.text = "ENQ_002" ∧
    (s.queue.isClosed = true → ∀ later id task delay,
      (s.run later).enqueue id task delay =
        { s.run later with answers := (s.run later).answers ++ [.error failure] })
  /-- Whoever waited for the accepted tasks comes back when all have ended. -/
  awaited : ∀ c ∈ s.calls, c.command ≠ .close → c.stage = .returned →
    s.queue.isClosed = true ∧ s.queue.pending = 0 ∧
      s.handedOut.Perm (s.queue.finished.map (·.1.id))
  /-- The replies to the attempts of a task that waits leave attempts to be made. -/
  underway : List.Forall₂ (fun _ replies =>
    (∀ reply ∈ replies, ¬ Reply.Settles reply) ∧ replies.length ≤ p.maxRetries.toNat)
      s.queue.waiting (ledger p moves).underway
  /-- Where nobody aborts, each task that has ended was delivered or dropped, as the replies to its
  own attempts have it. -/
  verdicts : .call .abort ∉ moves → List.Forall₂ (fun x replies =>
    (x.2 = .delivered ∨ x.2 = .dropped) ∧ Delivery.Ends p x.1.task replies x.2)
      s.queue.finished (ledger p moves).ended

end SharedQueue

end SmsGateway
