import SmsGateway.Proofs.Dispatch.Observed
import SmsGateway.Server.Basic

namespace SmsGateway.Server

open SmsGateway.Http

variable {α σ : Type}

/-- A request that hands an event to the consumer. -/
def IsDelivery (r : Request) : Prop :=
  r.method = "POST" ∧ Route.ofPath? r.path = some .consume

/-- Whether a status says that the caller is at fault. -/
def isClientError (status : Nat) : Bool :=
  400 ≤ status && status < 500

/-- A response as it is sent to any origin. -/
def shared (r : Response) : Response :=
  { r with allowOrigin := some "*" }

theorem shared_status (r : Response) : (shared r).status = r.status := rfl

/-- What the outside is asked in the course of a request, and what it answers. -/
def trace (s : Server α) (env : Surroundings α σ) (r : Request) (w : World σ) :
    List (TraceEntry α) :=
  (s.handle env.traced r (w.beside [])).2.outside.2

/-- The listeners that a request calls, as an observer sees it. -/
def calls (s : Server α) (env : Surroundings α σ) (r : Request) (w : World σ) :
    List (OutsideCall α) :=
  (s.handle env.observed r (w.observed [])).2.outside.2

def serveAll (s : Server α) (env : Surroundings α σ) (rs : List Request) (w : World σ) : World σ :=
  rs.foldl (fun w r => (s.handle env r w).2) w

variable {s : Server α} {env : Surroundings α σ} {r : Request} {w : World σ}

theorem family_of_ofBytes {bs : List UInt8} {f : Failure} (h : Envelope.ofBytes bs = .error f) :
    f.family = .serialization := by
  rw [Envelope.ofBytes] at h
  split at h
  · rw [Envelope.ofWire] at h
    split at h
    · simp at h
    · obtain rfl := Except.error.inj h
      rfl
  · obtain rfl := Except.error.inj h
    rfl

theorem ofBytes_of_delivered {e : Envelope} (h : s.delivered r = .ok e) :
    Envelope.ofBytes r.body = .ok e := by
  unfold delivered at h
  split at h
  · simp at h
  · split at h
    · simp at h
    · cases hread : Envelope.ofBytes r.body with
      | ok e' =>
          rw [hread] at h
          rw [Except.ok.inj h]
      | error f =>
          rw [hread] at h
          change Except.error (refusal f) = Except.ok e at h
          simp at h

theorem isClientError_of_delivered {response : Response} (h : s.delivered r = .error response) :
    isClientError response.status = true := by
  unfold delivered at h
  split at h
  · obtain rfl := Except.error.inj h
    rfl
  · split at h
    · obtain rfl := Except.error.inj h
      rfl
    · cases hread : Envelope.ofBytes r.body with
      | ok e =>
          rw [hread] at h
          change Except.ok e = Except.error response at h
          simp at h
      | error f =>
          rw [hread] at h
          obtain rfl : refusal f = response := Except.error.inj h
          change isClientError (ErrorReport.statusOf f.family) = true
          rw [family_of_ofBytes hread]
          rfl

theorem handle_of_isDelivery (hr : IsDelivery r) :
    s.handle env r w =
      if s.isAuthorised r then
        ((s.consume env r w).1.map shared, (s.consume env r w).2)
      else
        (some (shared (refusal (.authentication "missing or invalid x-api-key header"))), w) := by
  obtain ⟨hmethod, hpath⟩ := hr
  have hfinish : ∀ response, finish .consume "POST" response = response := by
    intro response
    simp [finish, Route.allows]
  simp only [handle, hmethod, hpath, hfinish]
  rw [if_neg (by decide)]
  cases hkey : s.isAuthorised r with
  | false => simp [letIn, hkey, Route.isGuarded, shared]
  | true =>
      simp only [letIn, hkey, Route.isGuarded, Route.allows, hmethod, serve]
      rfl

/-- What becomes of a delivery, and what the outside gets to see of it. -/
inductive Handled (s : Server α) (env : Surroundings α σ) (r : Request) (w : World σ) :
    Option Response × World σ → List (TraceEntry α) → List (OutsideCall α) → Prop where
  | turnedAway {response : Response} (hstatus : isClientError response.status = true) :
      Handled s env r w (some response, w) [] []
  | dispatched {e : Envelope} (hread : Envelope.ofBytes r.body = .ok e) :
      Handled s env r w
        ((s.dispatcher.dispatchSync env e w).1.map fun result => shared (afterDispatch e.id result),
          (s.dispatcher.dispatchSync env e w).2)
        (s.dispatcher.trace env e w) (s.dispatcher.calls env e w)

theorem handled_of_isDelivery (hr : IsDelivery r) :
    Handled s env r w (s.handle env r w) (s.trace env r w) (s.calls env r w) := by
  rw [trace, calls, handle_of_isDelivery hr, handle_of_isDelivery hr, handle_of_isDelivery hr]
  cases hkey : s.isAuthorised r with
  | false => exact .turnedAway rfl
  | true =>
      simp only [↓reduceIte, consume]
      cases hdelivered : s.delivered r with
      | error response =>
          refine .turnedAway ?_
          rw [shared_status]
          exact isClientError_of_delivered hdelivered
      | ok e =>
          rw [Option.map_map]
          exact .dispatched (ofBytes_of_delivered hdelivered)

theorem growsInto_consume : w.log.GrowsInto (s.consume env r w).2.log := by
  rw [consume]
  split
  · exact EventLog.growsInto_refl w.log
  · exact Dispatcher.growsInto_dispatchSync w

theorem log_load (env : Surroundings α σ) (id : String) (w : World σ) :
    (w.load env id).2.log = w.log := by
  rcases hrefuse : env.refuse .load w.outside with ⟨refusal | f, o⟩
  · rw [World.load, World.call_of_admitted hrefuse]
  · rw [World.load, World.call_of_refused hrefuse]

theorem log_showEvent (id : List Char) : (showEvent env id w).2.log = w.log := by
  rw [showEvent]
  cases Route.decodedId? id with
  | none => rfl
  | some id =>
      have hload := log_load env id w
      dsimp only
      split <;> simp_all

theorem growsInto_handle (r : Request) (w : World σ) :
    w.log.GrowsInto (s.handle env r w).2.log := by
  unfold handle
  cases hpath : Route.ofPath? r.path with
  | none => exact EventLog.growsInto_refl w.log
  | some route =>
      dsimp only
      split
      · exact EventLog.growsInto_refl w.log
      · unfold letIn
        split
        · exact EventLog.growsInto_refl w.log
        · split
          · cases route with
            | health => exact EventLog.growsInto_refl w.log
            | consume => exact growsInto_consume
            | event id =>
                rw [serve]
                dsimp only
                rw [log_showEvent]
                exact EventLog.growsInto_refl w.log
          · exact EventLog.growsInto_refl w.log

theorem growsInto_serveAll (rs : List Request) (w : World σ) :
    w.log.GrowsInto (s.serveAll env rs w).log := by
  induction rs generalizing w with
  | nil => exact EventLog.growsInto_refl w.log
  | cons r rs ih => exact (growsInto_handle r w).trans (ih _)

end SmsGateway.Server
