import SmsGateway.Proofs.Server.Delivery

/-!
What the answer to a delivery says. The push queue takes a success for the end of a delivery, drops
a delivery for good where the caller is at fault, and tries again where the server failed. So a
success has to mean that the event is recorded and published, a fault of the caller that nothing has
happened, and a failure of the event log has to be reported as a failure of the server.
-/

namespace SmsGateway

variable {α σ : Type}

/-- A failure of the event log's own, as a database or a task may report it. -/
def Failure.IsLogFault (f : Failure) : Prop :=
  (f.family = .persistence ∨ f.family = .internal) ∧ f.isDuplicate = false

/-- Log calls are only refused for faults of the event log. -/
def Surroundings.HasLogFaultsOnly (env : Surroundings α σ) : Prop :=
  ∀ c f, env.Refuses c f → f.IsLogFault

theorem Surroundings.HasLogFaultsOnly.feignsNoDuplicate {env : Surroundings α σ}
    (h : env.HasLogFaultsOnly) : env.FeignsNoDuplicate := by
  intro c f hrefuse
  exact (h c f hrefuse).2

theorem flakyLog_hasLogFaultsOnly : flakyLog.HasLogFaultsOnly := by
  rintro c f ⟨script, hrefuse⟩
  simp only [flakyLog] at hrefuse
  split at hrefuse
  · obtain rfl := Option.some.inj hrefuse
    exact ⟨.inl rfl, rfl⟩
  · simp at hrefuse

namespace Server

open SmsGateway.Http

variable {s : Server α} {env : Surroundings α σ} {r : Request} {w : World σ}

theorem isServerError_of_isLogFault {f : Failure} (hfault : f.IsLogFault) (id : String) :
    isServerError (shared (afterDispatch id (.error f))).status = true := by
  obtain ⟨hfamily, hduplicate⟩ := hfault
  rw [shared_status, afterDispatch, if_neg (by simp [hduplicate])]
  change isServerError (ErrorReport.statusOf f.family) = true
  rcases hfamily with hfamily | hfamily <;> rw [hfamily] <;> rfl

theorem isClientError_of_isBrokenRule {f : Failure} (hbroken : Envelope.IsBrokenRule f)
    (id : String) : isClientError (shared (afterDispatch id (.error f))).status = true := by
  obtain ⟨hfamily, hduplicate⟩ := hbroken
  rw [shared_status, afterDispatch, if_neg (by simp [hduplicate])]
  change isClientError (ErrorReport.statusOf f.family) = true
  rw [hfamily]
  rfl

theorem isSuccess_of_isDuplicate {f : Failure} (hduplicate : f.isDuplicate = true) (id : String) :
    isSuccess (shared (afterDispatch id (.error f))).status = true := by
  rw [shared_status, afterDispatch, if_pos hduplicate]
  rfl

theorem not_isSuccess_of_isClientError {status : Nat} (h : isClientError status = true) :
    isSuccess status = false := by
  simp only [isClientError, isSuccess, Bool.and_eq_true, decide_eq_true_eq, Bool.and_eq_false_iff,
    decide_eq_false_iff_not] at h ⊢
  omega

theorem not_isSuccess_of_isServerError {status : Nat} (h : isServerError status = true) :
    isSuccess status = false := by
  simp only [isServerError, isSuccess, Bool.and_eq_true, decide_eq_true_eq, Bool.and_eq_false_iff,
    decide_eq_false_iff_not] at h ⊢
  omega

theorem not_isClientError_of_isServerError {status : Nat} (h : isServerError status = true) :
    isClientError status = false := by
  simp only [isServerError, isClientError, Bool.and_eq_true, decide_eq_true_eq,
    Bool.and_eq_false_iff, decide_eq_false_iff_not] at h ⊢
  omega

/-- What a response to a delivery tells, by the class of its status. -/
inductive Verdict (r : Request) (log log' : EventLog) (calls : List (OutsideCall α))
    (status : Nat) : Prop where
  | accepted {e : Envelope} (hstatus : isSuccess status = true)
      (hread : Envelope.ofBytes r.body = .ok e) (hpublished : log'.isPublished e.id = true)
  | rejected (hstatus : isClientError status = true) (hlog : log' = log) (hidle : calls = [])
  | failed (hstatus : isServerError status = true)

/-- Every way for a dispatch to end gets a response of the class that fits it. -/
theorem verdict_of_dispatchSync (hfaults : env.HasLogFaultsOnly) {e : Envelope}
    (hread : Envelope.ofBytes r.body = .ok e) {result : Except Failure Unit} {w' : World σ}
    (h : s.dispatcher.dispatchSync env e w = (some result, w')) :
    Verdict r w.log w'.log (s.dispatcher.calls env e w)
      (shared (afterDispatch e.id result)).status := by
  rw [Dispatcher.calls_eq_deeds]
  have hprogress := Dispatcher.progress_dispatchSync hfaults.feignsNoDuplicate h
  generalize hds : s.dispatcher.deeds env e w = ds at hprogress
  cases hprogress with
  | invalid hrules =>
      refine .rejected ?_ ?_ rfl
      · exact isClientError_of_isBrokenRule (Envelope.isBrokenRule_of_validate hrules) e.id
      · have hlog := Dispatcher.log_dispatchSync_eq (by rw [hds]; simp)
        rw [h] at hlog
        exact hlog
  | unrecorded hrefuse | unknown hrefuse | unmarked _ hrefuse =>
      exact .failed (isServerError_of_isLogFault (hfaults _ _ hrefuse) e.id)
  | duplicate hpublished => exact .accepted (isSuccess_of_isDuplicate rfl e.id) hread hpublished
  | marked hfan hpublished => exact .accepted rfl hread hpublished

theorem verdict_of_isDelivery (hfaults : env.HasLogFaultsOnly) (hr : IsDelivery r)
    {response : Response} (h : (s.handle env r w).1 = some response) :
    Verdict r w.log (s.handle env r w).2.log (s.calls env r w) response.status := by
  have hhandled : Handled s env r w (s.handle env r w) (s.trace env r w) (s.calls env r w) :=
    handled_of_isDelivery hr
  generalize s.handle env r w = answer, s.trace env r w = trace, s.calls env r w = calls
    at h hhandled
  cases hhandled with
  | turnedAway hstatus =>
      obtain rfl := Option.some.inj h
      exact .rejected hstatus rfl rfl
  | dispatched hread =>
      obtain ⟨result, hresult, rfl⟩ := Option.map_eq_some_iff.mp h
      exact verdict_of_dispatchSync hfaults hread (Prod.ext hresult rfl)

/-- What the answer to a delivery in a world promises. -/
structure AnsweredTruly (s : Server α) (env : Surroundings α σ) (r : Request) (w : World σ) :
    Prop where
  /-- After a success the event in the body is recorded and marked as published. -/
  of_success : ∀ response, (s.handle env r w).1 = some response →
    isSuccess response.status = true →
      ∃ e, Envelope.ofBytes r.body = .ok e ∧
        ∃ row, (s.handle env r w).2.log.find? e.id = some row ∧ row.published = true
  /-- Where the caller is at fault the log stays as it is and no listener is started. -/
  of_clientError : ∀ response, (s.handle env r w).1 = some response →
    isClientError response.status = true →
      (s.handle env r w).2.log = w.log ∧ s.calls env r w = []
  /-- A fault of the log is answered, and as a failure of the server. -/
  of_refused : ∀ c f, .log c (some f) ∈ s.trace env r w →
    ∃ response, (s.handle env r w).1 = some response ∧ isServerError response.status = true

theorem isServerError_of_refused (hfaults : env.HasLogFaultsOnly) (hr : IsDelivery r)
    {c : LogCall} {f : Failure} (hrefused : .log c (some f) ∈ s.trace env r w) :
    ∃ response, (s.handle env r w).1 = some response ∧ isServerError response.status = true := by
  have hhandled : Handled s env r w (s.handle env r w) (s.trace env r w) (s.calls env r w) :=
    handled_of_isDelivery hr
  generalize s.handle env r w = answer, s.trace env r w = trace, s.calls env r w = calls
    at hrefused hhandled
  cases hhandled with
  | turnedAway hstatus => simp at hrefused
  | @dispatched e hread =>
      rw [Dispatcher.trace_eq_deeds] at hrefused
      replace hrefused := Deed.refused_mem_of_log hrefused
      obtain ⟨hended, hrefuse⟩ :=
        Dispatcher.dispatchSync_of_refused hfaults.feignsNoDuplicate hrefused
      exact ⟨_, congrArg (Option.map _) hended, isServerError_of_isLogFault (hfaults c f hrefuse) e.id⟩

theorem answeredTruly_of_isDelivery (hfaults : env.HasLogFaultsOnly) (hr : IsDelivery r)
    (w : World σ) : AnsweredTruly s env r w := by
  refine ⟨?_, ?_, ?_⟩
  · intro response hresponse hsuccess
    cases verdict_of_isDelivery hfaults hr hresponse with
    | accepted hstatus hread hpublished =>
        exact ⟨_, hread, EventLog.isPublished_eq_true_iff.mp hpublished⟩
    | rejected hstatus hlog hidle =>
        rw [not_isSuccess_of_isClientError hstatus] at hsuccess
        simp at hsuccess
    | failed hstatus =>
        rw [not_isSuccess_of_isServerError hstatus] at hsuccess
        simp at hsuccess
  · intro response hresponse hfault
    cases verdict_of_isDelivery hfaults hr hresponse with
    | accepted hstatus hread hpublished =>
        rw [not_isSuccess_of_isClientError hfault] at hstatus
        simp at hstatus
    | rejected hstatus hlog hidle => exact ⟨hlog, hidle⟩
    | failed hstatus =>
        rw [not_isClientError_of_isServerError hstatus] at hfault
        simp at hfault
  · intro c f hrefused
    exact isServerError_of_refused hfaults hr hrefused

/-- Whatever requests a server over an empty log gets, and whichever log calls fail during them, it
answers every delivery truly; and what it has acknowledged stays published. -/
theorem answeredTruly_run (s : Server α) (env : Surroundings α σ) (hfaults : env.HasLogFaultsOnly)
    (notices : List Notice) (outside : σ) (before after : List Request) (r : Request)
    (hr : IsDelivery r) :
    let start : World σ := ⟨.empty, notices, outside⟩
    let w := s.serveAll env before start
    AnsweredTruly s env r w ∧
      ∀ response, (s.handle env r w).1 = some response → isSuccess response.status = true →
        ∃ e, Envelope.ofBytes r.body = .ok e ∧
          (s.serveAll env (before ++ r :: after) start).log.isPublished e.id = true := by
  intro start w
  have htruly : AnsweredTruly s env r w := answeredTruly_of_isDelivery hfaults hr w
  refine ⟨htruly, ?_⟩
  intro response hresponse hsuccess
  obtain ⟨e, hread, hrow⟩ := htruly.of_success response hresponse hsuccess
  refine ⟨e, hread, ?_⟩
  have hlater : s.serveAll env (before ++ r :: after) start =
      s.serveAll env after (s.handle env r w).2 := by
    simp [serveAll, w]
  rw [hlater]
  exact (growsInto_serveAll after _).isPublished (EventLog.isPublished_eq_true_iff.mpr hrow)

theorem answeredTruly_redelivery :
    let e := Envelope.create "event-1" "message.phone.sent" "/v1/messages" none
    let r : Request :=
      ⟨"POST", "/v1/events/consume", [("X-Api-Key", Text.bytes "secret")], e.wireBytes⟩
    let s : Server String :=
      ⟨"secret", ⟨"", "secret", Registry.empty.subscribe "message.phone.sent" "webhook"⟩⟩
    let start : World (List Bool) := ⟨.empty, [], [false, true]⟩
    flakyLog.HasLogFaultsOnly ∧ IsDelivery r ∧
      ((s.handle flakyLog r start).1.map fun response => response.status) = some 500 ∧
      ((s.handle flakyLog r (s.serveAll flakyLog [r] start)).1.map fun response =>
        response.status) = some 200 ∧
      AnsweredTruly s flakyLog r (s.serveAll flakyLog [r] start) := by
  intro e r s start
  have hr : IsDelivery r := ⟨rfl, by decide⟩
  refine ⟨flakyLog_hasLogFaultsOnly, hr, by decide +kernel, by decide +kernel, ?_⟩
  exact (answeredTruly_run s flakyLog flakyLog_hasLogFaultsOnly [] _ [r] [] r hr).1

end Server

end SmsGateway
