import SmsGateway.Delivery.Concurrent

namespace SmsGateway

namespace Reply

/-- The receiver was reached and did not fail, so that it need not be asked again. -/
def Settles : Reply → Prop
  | .unreachable => False
  | .answered status _ => ¬ (500 ≤ status ∧ status ≤ 599)

/-- The receiver took the task. -/
def Accepts : Reply → Prop
  | .unreachable => False
  | .answered status _ => 200 ≤ status ∧ status ≤ 299

instance : DecidablePred Accepts
  | .unreachable => inferInstanceAs (Decidable False)
  | .answered status _ => inferInstanceAs (Decidable (200 ≤ status ∧ status ≤ 299))

variable {reply : Reply}

theorem Accepts.settles (h : reply.Accepts) : reply.Settles := by
  rcases reply with _ | ⟨status, body⟩
  · exact h
  · change 200 ≤ status ∧ status ≤ 299 at h
    change ¬ (500 ≤ status ∧ status ≤ 599)
    omega

theorem verdict_eq_success_iff : reply.verdict = .success ↔ reply.Accepts := by
  rcases reply with _ | ⟨status, body⟩
  · simp [verdict, Accepts]
  · have hsuccess : Http.isSuccess status = true ↔ 200 ≤ status ∧ status ≤ 299 := by
      simp only [Http.isSuccess, Bool.and_eq_true, decide_eq_true_eq]
      omega
    rw [verdict, Accepts, ← hsuccess]
    split
    · next h => simp [h]
    · next h => split <;> simp [h]

theorem exists_transient_iff :
    (∃ message, reply.verdict = .transient message) ↔ ¬ reply.Settles := by
  rcases reply with _ | ⟨status, body⟩
  · simp [verdict, Settles]
  · have hfailed : Http.isServerError status = true ↔ 500 ≤ status ∧ status ≤ 599 := by
      simp only [Http.isServerError, Bool.and_eq_true, decide_eq_true_eq]
      omega
    have hsuccess : Http.isSuccess status = true → ¬ Http.isServerError status = true := by
      simp only [Http.isSuccess, Http.isServerError, Bool.and_eq_true, decide_eq_true_eq]
      omega
    rw [verdict, Settles, ← hfailed, Classical.not_not]
    split
    · next h => simp [hsuccess h]
    · next h => split <;> simp_all

end Reply

variable {σ : Type} {call : DeliveryTask → σ → Reply × σ} {p : RetryPolicy}

namespace Delivery

/-- Receivers that reply as a list has it. After its end they cannot be reached. -/
def scripted (_ : DeliveryTask) : List Reply → Reply × List Reply
  | [] => (.unreachable, [])
  | reply :: replies => (reply, replies)

/-- Puts notices before those of a delivery. -/
def noting (notices : List Notice) (r : DeliveryEnd × List Notice × σ) :
    DeliveryEnd × List Notice × σ :=
  (r.1, notices ++ r.2.1, r.2.2)

theorem noting_noting (notices notices' : List Notice) (r : DeliveryEnd × List Notice × σ) :
    noting notices (noting notices' r) = noting (notices ++ notices') r := by
  simp only [noting, List.append_assoc]

/-- A delivery ends in a way with the replies of its attempts. -/
structure Ends (p : RetryPolicy) (t : DeliveryTask) (replies : List Reply)
    (ending : DeliveryEnd) : Prop where
  /-- The last reply settles it or is the last that its policy allows, and none before does. -/
  attempted : ∃ earlier last, replies = earlier ++ [last] ∧ (∀ reply ∈ earlier, ¬ reply.Settles) ∧
    earlier.length ≤ p.maxRetries.toNat ∧
    (last.Settles ∨ earlier.length = p.maxRetries.toNat) ∧
    ending = if last.Accepts then .delivered else .dropped
  /-- So it ends as well when nothing comes between the attempts. -/
  atOnce : ∃ notices, ∀ more, run scripted p t (replies ++ more) = (ending, notices, more)

theorem Ends.delivered_or_dropped {t : DeliveryTask} {replies : List Reply} {ending : DeliveryEnd}
    (h : Ends p t replies ending) : ending = .delivered ∨ ending = .dropped := by
  obtain ⟨earlier, last, -, -, -, -, rfl⟩ := h.attempted
  split
  · exact .inl rfl
  · exact .inr rfl

end Delivery

namespace DeliveryJob

open Delivery

variable {job job' : DeliveryJob} {reply : Reply} {replies : List Reply} {notice : Notice}
  {ending : DeliveryEnd} {s : σ}

/-- The rest of a delivery, with nothing between its attempts. -/
def complete (call : DeliveryTask → σ → Reply × σ) (p : RetryPolicy) (job : DeliveryJob) (s : σ) :
    DeliveryEnd × List Notice × σ :=
  Delivery.attempt call p job.queued.task job.repetitions job.delay s

theorem complete_eq (job : DeliveryJob) (s : σ) :
    job.complete call p s =
      match job.afterReply p (call job.queued.task s).1 with
      | (.inl ending, notice) => (ending, [notice], (call job.queued.task s).2)
      | (.inr job', notice) =>
          noting [notice] (job'.complete call p (call job.queued.task s).2) := by
  obtain ⟨t, repetitions, delay⟩ := job
  rw [complete, Delivery.attempt, afterReply]
  dsimp only
  cases (call t.task s).1.verdict with
  | transient message => cases repetitions <;> rfl
  | _ => rfl

theorem repeated_of_afterReply (h : job.afterReply p reply = (.inr job', notice)) :
    ¬ reply.Settles ∧ job'.queued = job.queued ∧ job.repetitions = job'.repetitions + 1 := by
  unfold afterReply at h
  split at h
  · simp at h
  · simp at h
  · simp at h
  · next hverdict hrepetitions =>
      obtain rfl := Sum.inr.inj (congrArg Prod.fst h)
      exact ⟨Reply.exists_transient_iff.mp ⟨_, hverdict⟩, rfl, hrepetitions⟩

theorem ended_of_afterReply (h : job.afterReply p reply = (.inl ending, notice)) :
    (reply.Settles ∨ job.repetitions = 0) ∧
      ending = if reply.Accepts then .delivered else .dropped := by
  unfold afterReply at h
  split at h
  · next hverdict =>
      have haccepts := Reply.verdict_eq_success_iff.mp hverdict
      obtain rfl := Sum.inl.inj (congrArg Prod.fst h)
      exact ⟨.inl haccepts.settles, (if_pos haccepts).symm⟩
  · next message hverdict =>
      have hsettles : reply.Settles := by
        apply Classical.not_not.mp
        rw [← Reply.exists_transient_iff, hverdict]
        simp
      have hrefused : ¬ reply.Accepts := by
        simp [← Reply.verdict_eq_success_iff, hverdict]
      obtain rfl := Sum.inl.inj (congrArg Prod.fst h)
      exact ⟨.inl hsettles, (if_neg hrefused).symm⟩
  · next message hverdict hrepetitions =>
      have hrefused : ¬ reply.Accepts := by
        simp [← Reply.verdict_eq_success_iff, hverdict]
      obtain rfl := Sum.inl.inj (congrArg Prod.fst h)
      exact ⟨.inr hrepetitions, (if_neg hrefused).symm⟩
  · simp at h

/-- A delivery under way has had some replies, and goes on as it would have without interruption. -/
structure Underway (p : RetryPolicy) (job : DeliveryJob) (replies : List Reply) : Prop where
  unsettled : ∀ reply ∈ replies, ¬ reply.Settles
  budget : replies.length + job.repetitions = p.maxRetries.toNat
  continued : ∃ notices, ∀ more, run scripted p job.queued.task (replies ++ more) =
    noting notices (job.complete scripted p more)

theorem underway_start (t : QueuedTask) : (start p t).Underway p [] :=
  ⟨by simp, Nat.zero_add _, [], fun _ => rfl⟩

theorem Underway.repeated (h : job.Underway p replies)
    (hreply : job.afterReply p reply = (.inr job', notice)) :
    job'.Underway p (replies ++ [reply]) := by
  obtain ⟨notices, hrun⟩ := h.continued
  obtain ⟨hunsettled, hqueued, hrepetitions⟩ := repeated_of_afterReply hreply
  refine ⟨?_, ?_, notices ++ [notice], ?_⟩
  · exact List.forall_mem_append.mpr ⟨h.unsettled, List.forall_mem_singleton.mpr hunsettled⟩
  · rw [← h.budget, hrepetitions, List.length_append, List.length_singleton]
    omega
  · intro more
    have hnext : job.complete scripted p (reply :: more) =
        noting [notice] (job'.complete scripted p more) := by
      rw [complete_eq, show scripted job.queued.task (reply :: more) = (reply, more) from rfl,
        hreply]
    rw [hqueued, List.append_assoc, List.singleton_append, hrun, hnext, noting_noting]

theorem Underway.ends (h : job.Underway p replies)
    (hreply : job.afterReply p reply = (.inl ending, notice)) :
    Ends p job.queued.task (replies ++ [reply]) ending := by
  obtain ⟨notices, hrun⟩ := h.continued
  obtain ⟨hlast, hending⟩ := ended_of_afterReply hreply
  refine ⟨⟨replies, reply, rfl, h.unsettled, ?_, ?_, hending⟩, notices ++ [notice], ?_⟩
  · rw [← h.budget]
    exact Nat.le_add_right _ _
  · rw [← h.budget]
    exact hlast.imp_right fun hrepetitions => by rw [hrepetitions, Nat.add_zero]
  · intro more
    have hnext : job.complete scripted p (reply :: more) = (ending, [notice], more) := by
      rw [complete_eq, show scripted job.queued.task (reply :: more) = (reply, more) from rfl,
        hreply]
    rw [List.append_assoc, List.singleton_append, hrun, hnext]
    rfl

end DeliveryJob

namespace SharedQueue

variable {s : SharedQueue} {i : Nat} {job : DeliveryJob} {reply : Reply} {notice : Notice}

theorem attempt_of_ended {ending : DeliveryEnd} (hjob : s.jobs[i]? = some job)
    (hreply : job.afterReply s.queue.policy reply = (.inl ending, notice)) :
    s.attempt i reply = s.endJob i ending notice := by
  rw [attempt, hjob]
  dsimp only
  rw [hreply]

theorem attempt_of_repeated {job' : DeliveryJob} (hjob : s.jobs[i]? = some job)
    (hreply : job.afterReply s.queue.policy reply = (.inr job', notice)) :
    s.attempt i reply =
      { s with jobs := s.jobs.set i job', notices := s.notices ++ [notice] } := by
  rw [attempt, hjob]
  dsimp only
  rw [hreply]

theorem giveUp_of_cancelling (hcancelling : s.cancelling = true) (hjob : s.jobs[i]? = some job) :
    s.giveUp i = s.endJob i .cancelled Delivery.cancelled := by
  rw [giveUp, hcancelling, hjob]

end SharedQueue

end SmsGateway
