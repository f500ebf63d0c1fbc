import SmsGateway.Proofs.Delivery.Attempts

namespace SmsGateway

variable {σ : Type} {p : RetryPolicy} {q : PushQueue}

namespace PushQueue

theorem finish_zero (q : PushQueue) (ending : DeliveryEnd) :
    q.finish 0 ending = q.finishNext ending := by
  rw [finish, finishNext]
  cases q.waiting <;> rfl

theorem policy_finishNext (q : PushQueue) (ending : DeliveryEnd) :
    (q.finishNext ending).policy = q.policy := by
  rw [finishNext]
  split <;> rfl

theorem waiting_finishNext (q : PushQueue) (ending : DeliveryEnd) :
    (q.finishNext ending).waiting = q.waiting.tail := by
  rw [finishNext]
  cases hwaiting : q.waiting with
  | nil => exact hwaiting
  | cons t rest => rfl

theorem waiting_drain (work : QueuedTask → σ → DeliveryEnd × List Notice × σ)
    {waiting : List QueuedTask} (h : q.waiting = waiting) (x : σ) :
    (drain work waiting q x).1.waiting = [] := by
  induction waiting generalizing q x with
  | nil => exact h
  | cons t rest ih =>
      exact ih (by rw [waiting_finishNext, h, List.tail_cons]) _

end PushQueue

theorem DeliveryJob.runOnce_eq (call : DeliveryTask → σ → Reply × σ) (t : QueuedTask) (x : σ) :
    Delivery.runOnce call p t.task x =
      match (start p t).afterReply p (call t.task x).1 with
      | (.inl ending, notice) => (ending, [notice], (call t.task x).2)
      | (.inr _, notice) =>
          Delivery.noting [notice] (.cancelled, [Delivery.cancelled], (call t.task x).2) := by
  rw [Delivery.runOnce, Delivery.attempt, start, afterReply]
  dsimp only
  cases (call t.task x).1.verdict with
  | transient message => cases p.maxRetries.toNat <;> rfl
  | _ => rfl

namespace SharedQueue

open Delivery

variable {s s' s'' : SharedQueue} {t : QueuedTask} {job : DeliveryJob} {rest : List DeliveryJob}

/-- Some moves lead from one state of a queue to another. -/
def Leads (s s' : SharedQueue) : Prop :=
  ∃ moves, s.run moves = s'

theorem Leads.trans (h : s.Leads s') (h' : s'.Leads s'') : s.Leads s'' := by
  obtain ⟨moves, rfl⟩ := h
  obtain ⟨moves', rfl⟩ := h'
  exact ⟨moves ++ moves', List.foldl_append⟩

/-- A queue after the oldest of its tasks has ended. -/
def ended (s : SharedQueue) (rest : List DeliveryJob) (r : DeliveryEnd × List Notice × σ) :
    SharedQueue :=
  { s with queue := s.queue.finishNext r.1, jobs := rest, notices := s.notices ++ r.2.1 }

/-- A queue after all its tasks have ended. -/
def drained (s : SharedQueue) (r : PushQueue × List Notice × σ) : SharedQueue :=
  { s with queue := r.1, jobs := [], notices := s.notices ++ r.2.1 }

theorem endJob_front (h : s.jobs = job :: rest) (ending : DeliveryEnd) (notice : Notice) (x : σ) :
    s.endJob 0 ending notice = s.ended rest (ending, [notice], x) := by
  rw [endJob, ended, PushQueue.finish_zero, h]
  rfl

theorem getElem?_front (h : s.jobs = job :: rest) : s.jobs[0]? = some job := by
  rw [h, List.getElem?_cons_zero]

theorem leads_reply (h : s.jobs = job :: rest) {reply : Reply} {ending : DeliveryEnd}
    {notice : Notice} (hreply : job.afterReply s.queue.policy reply = (.inl ending, notice))
    (x : σ) : s.Leads (s.ended rest (ending, [notice], x)) := by
  refine ⟨[.attempt 0 reply], (attempt_of_ended (getElem?_front h) hreply).trans ?_⟩
  exact endJob_front h ..

theorem leads_noting (h : s.jobs = job :: rest) {reply : Reply} {job' : DeliveryJob}
    {notice : Notice} (hreply : job.afterReply s.queue.policy reply = (.inr job', notice))
    {r : DeliveryEnd × List Notice × σ}
    (hrest : ∀ {s' : SharedQueue}, s'.jobs = job' :: rest → s'.queue = s.queue →
      s'.cancelling = s.cancelling → s'.Leads (s'.ended rest r)) :
    s.Leads (s.ended rest (noting [notice] r)) := by
  let next : SharedQueue := { s with jobs := job' :: rest, notices := s.notices ++ [notice] }
  have hnext : s.Leads next := by
    refine ⟨[.attempt 0 reply], (attempt_of_repeated (getElem?_front h) hreply).trans ?_⟩
    rw [h, List.set_cons_zero]
  have hended : next.Leads (next.ended rest r) := hrest rfl rfl rfl
  refine hnext.trans ?_
  simpa only [next, ended, noting, List.append_assoc] using hended

theorem leads_complete {s : SharedQueue} {job : DeliveryJob} (h : s.jobs = job :: rest)
    (call : DeliveryTask → σ → Reply × σ) (x : σ) :
    s.Leads (s.ended rest (job.complete call s.queue.policy x)) := by
  rw [DeliveryJob.complete_eq]
  rcases hreply : job.afterReply s.queue.policy (call job.queued.task x).1 with
    ⟨ending | job', notice⟩
  · exact leads_reply h hreply _
  · refine leads_noting h hreply fun hjobs hqueue _ => ?_
    rw [← hqueue]
    exact leads_complete hjobs call _
termination_by job.repetitions
decreasing_by
  rw [(DeliveryJob.repeated_of_afterReply hreply).2.2]
  exact Nat.lt_succ_self _

theorem leads_run (call : DeliveryTask → σ → Reply × σ) (x : σ) (hpolicy : s.queue.policy = p)
    (hjobs : s.jobs = .start p t :: rest) :
    s.Leads (s.ended rest (Delivery.run call p t.task x)) := by
  subst hpolicy
  exact leads_complete hjobs call x

theorem leads_cancelled (h : s.jobs = job :: rest) (hcancelling : s.cancelling = true) (x : σ) :
    s.Leads (s.ended rest (.cancelled, [cancelled], x)) := by
  refine ⟨[.giveUp 0], (giveUp_of_cancelling hcancelling (getElem?_front h)).trans ?_⟩
  exact endJob_front h ..

theorem leads_runOnce (call : DeliveryTask → σ → Reply × σ) (x : σ) (hpolicy : s.queue.policy = p)
    (hcancelling : s.cancelling = true) (hjobs : s.jobs = .start p t :: rest) :
    s.Leads (s.ended rest (Delivery.runOnce call p t.task x)) := by
  subst hpolicy
  rw [DeliveryJob.runOnce_eq]
  rcases hreply : (DeliveryJob.start s.queue.policy t).afterReply s.queue.policy (call t.task x).1
    with ⟨ending | job', notice⟩
  · exact leads_reply hjobs hreply _
  · refine leads_noting hjobs hreply fun hjobs' _ hcancelling' => ?_
    exact leads_cancelled hjobs' (hcancelling'.trans hcancelling) _

theorem leads_cancel (call : DeliveryTask → σ → Reply × σ) (x : σ)
    (hpolicy : s.queue.policy = q.policy) (hcancelling : s.cancelling = true)
    (hjobs : s.jobs = .start q.policy t :: rest) : s.Leads (s.ended rest (q.cancel call t x)) := by
  rw [PushQueue.cancel]
  split
  · exact leads_runOnce call x hpolicy hcancelling hjobs
  · exact leads_cancelled hjobs hcancelling x

theorem leads_drain {cancelling : Bool} {work : QueuedTask → σ → DeliveryEnd × List Notice × σ}
    (hwork : ∀ {s : SharedQueue} {t rest} (x : σ), s.queue.policy = p →
      s.cancelling = cancelling → s.jobs = .start p t :: rest → s.Leads (s.ended rest (work t x)))
    {waiting : List QueuedTask} (hpolicy : s.queue.policy = p)
    (hcancelling : s.cancelling = cancelling) (hjobs : s.jobs = waiting.map (.start p)) (x : σ) :
    s.Leads (s.drained (PushQueue.drain work waiting s.queue x)) := by
  induction waiting generalizing s x with
  | nil =>
      refine ⟨[], ?_⟩
      rw [PushQueue.drain, drained, List.append_nil, ← List.map_nil (f := DeliveryJob.start p),
        ← hjobs]
      rfl
  | cons t waiting ih =>
      have hfirst := hwork x hpolicy hcancelling hjobs
      have hrest := ih (s := s.ended (waiting.map (.start p)) (work t x))
        ((PushQueue.policy_finishNext ..).trans hpolicy) hcancelling rfl (work t x).2.2
      refine hfirst.trans ?_
      rw [PushQueue.drain]
      simpa only [ended, drained, List.append_assoc] using hrest

/-- A queue whose deliveries have not begun, and that nobody has closed. -/
def fresh (q : PushQueue) : SharedQueue :=
  ⟨q, q.waiting.map (.start q.policy), false, false, [], [], []⟩

theorem leads_returned {jobs : List DeliveryJob} {cancelling : Bool} {command : QueueCommand}
    {notices : List Notice} {r : PushQueue × List Notice × σ} (hempty : r.1.waiting = [])
    (h : Leads ⟨q, jobs, true, cancelling, [⟨command, .waiting⟩], [], notices⟩
      (drained ⟨q, jobs, true, cancelling, [⟨command, .waiting⟩], [], notices⟩ r)) :
    Leads ⟨q, jobs, true, cancelling, [⟨command, .waiting⟩], [], notices⟩
      ⟨r.1, [], true, cancelling, [⟨command, .returned⟩], [], notices ++ r.2.1⟩ := by
  refine h.trans ⟨[.advance 0], ?_⟩
  simp [run, move, advance, drained, PushQueue.pending, hempty, withCall]

/-- A shutdown by itself is a run of a queue that many share. -/
theorem leads_shutdown (q : PushQueue) (call : DeliveryTask → σ → Reply × σ) (x : σ) :
    (fresh q).Leads ⟨(q.shutdown call x).1, [], true, false, [⟨.shutdown, .returned⟩], [],
      (q.shutdown call x).2.1⟩ := by
  have hwaiting : (fresh q).Leads ⟨q.close, q.waiting.map (.start q.policy), true, false,
      [⟨.shutdown, .waiting⟩], [], [q.awaited]⟩ :=
    ⟨[.call .shutdown, .advance 0, .advance 0, .advance 0], rfl⟩
  refine hwaiting.trans ?_
  have hempty := PushQueue.waiting_drain (q := q.close)
    (fun t => Delivery.run call q.policy t.task) rfl x
  exact leads_returned hempty
    (leads_drain (fun x hpolicy _ => leads_run call x hpolicy) rfl rfl rfl x)

/-- An abort by itself is a run of a queue that many share. -/
theorem leads_abort (q : PushQueue) (call : DeliveryTask → σ → Reply × σ) (x : σ) :
    (fresh q).Leads ⟨(q.abort call x).1, [], true, true, [⟨.abort, .returned⟩], [],
      (q.abort call x).2.1⟩ := by
  have hwaiting : (fresh q).Leads ⟨q.close, q.waiting.map (.start q.policy), true, true,
      [⟨.abort, .waiting⟩], [], []⟩ :=
    ⟨[.call .abort, .advance 0, .advance 0, .advance 0], rfl⟩
  refine hwaiting.trans ?_
  have hempty := PushQueue.waiting_drain (q := q.close) (q.cancel call) rfl x
  exact leads_returned hempty (leads_drain (leads_cancel call) rfl rfl rfl x)

end SharedQueue

end SmsGateway
