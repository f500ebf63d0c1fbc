import SmsGateway.Delivery.Attempt

namespace SmsGateway

/-- An accepted task. -/
structure QueuedTask where
  id : String
  task : DeliveryTask
  delay : Time.Span

/-- A push queue. -/
structure PushQueue where
  policy : RetryPolicy
  accepting : Bool
  /-- Accepted tasks that have not ended, the oldest first. -/
  waiting : List QueuedTask
  /-- Accepted tasks that have ended. -/
  finished : List (QueuedTask × DeliveryEnd)

namespace PushQueue

variable {σ : Type}

def create (policy : RetryPolicy) : PushQueue :=
  ⟨policy, true, [], []⟩

/-- Whether the queue accepts no more tasks. -/
def isClosed (q : PushQueue) : Bool :=
  !q.accepting

/-- The number of accepted tasks that have not ended. -/
def pending (q : PushQueue) : Nat :=
  q.waiting.length

def accepted (id : String) (delay : Time.Span) : Notice :=
  .of .debug "push task accepted" [("task_id", id), ("delay", delay.text)]

/-- Hands in a task under an id that the queue gives to it. -/
def enqueue (q : PushQueue) (id : String) (task : DeliveryTask) (delay : Time.Span) :
    Except Failure String × PushQueue × List Notice :=
  if q.accepting then
    (.ok id, { q with waiting := q.waiting ++ [⟨id, task, delay⟩] }, [accepted id delay])
  else (.error .queueClosed, q, [])

/-- Accepts no more tasks. -/
def close (q : PushQueue) : PushQueue :=
  { q with accepting := false }

/-- Ends the oldest waiting task. -/
def finishNext (q : PushQueue) (ending : DeliveryEnd) : PushQueue :=
  match q.waiting with
  | [] => q
  | t :: rest => { q with waiting := rest, finished := q.finished ++ [(t, ending)] }

/-- Ends waiting tasks one after another, each in a given way. -/
def drain (work : QueuedTask → σ → DeliveryEnd × List Notice × σ) :
    List QueuedTask → PushQueue → σ → PushQueue × List Notice × σ
  | [], q, s => (q, [], s)
  | t :: rest, q, s =>
      let (ending, notices, s) := work t s
      let (q, others, s) := drain work rest (q.finishNext ending) s
      (q, notices ++ others, s)

/-- The notice of a shutdown that waits for the accepted tasks. -/
def awaited (q : PushQueue) : Notice :=
  .of .info "waiting for push queue deliveries" [("pending", toString q.pending)]

/-- Accepts no more tasks and waits for the accepted ones. -/
def shutdown (q : PushQueue) (call : DeliveryTask → σ → Reply × σ) (s : σ) :
    PushQueue × List Notice × σ :=
  let notice := q.awaited
  let (q, notices, s) :=
    drain (fun t => Delivery.run call q.policy t.task) q.waiting q.close s
  (q, notice :: notices, s)

/-- Cancels a task. A task without a delay is under way already and has its first attempt. -/
def cancel (q : PushQueue) (call : DeliveryTask → σ → Reply × σ) (t : QueuedTask) (s : σ) :
    DeliveryEnd × List Notice × σ :=
  if t.delay.nanos = 0 then Delivery.runOnce call q.policy t.task s
  else (.cancelled, [Delivery.cancelled], s)

/-- Accepts no more tasks and cancels the accepted ones. -/
def abort (q : PushQueue) (call : DeliveryTask → σ → Reply × σ) (s : σ) :
    PushQueue × List Notice × σ :=
  drain (q.cancel call) q.waiting q.close s

def diagnostic (q : PushQueue) : String :=
  s!"HttpPushQueue \x7b retry_policy: {q.policy.diagnostic}, pending: {q.pending}, " ++
    s!"closed: {q.isClosed} \x7d"

end PushQueue

end SmsGateway
