import Mathlib.Data.List.Forall2
import SmsGateway.Delivery.Concurrent

/-!
The replies that the attempts of each delivery brought, for every delivery of a queue that many use
at once. They are kept in the order in which the queue keeps its tasks.
-/

namespace SmsGateway

section Paired

variable {α β : Type} {R : α → β → Prop} {l : List α} {l' : List β} {i : Nat} {a a' : α}

theorem forall₂_append_singleton (h : List.Forall₂ R l l') {b : β} (hab : R a b) :
    List.Forall₂ R (l ++ [a]) (l' ++ [b]) :=
  List.rel_append h (.cons hab .nil)

theorem exists_getElem?_of_forall₂ (h : List.Forall₂ R l l') (ha : l[i]? = some a) :
    ∃ b, l'[i]? = some b ∧ R a b := by
  induction h generalizing i with
  | nil => simp at ha
  | cons hab _ ih =>
      cases i with
      | zero =>
          obtain rfl := Option.some.inj ha
          exact ⟨_, rfl, hab⟩
      | succ i => exact ih ha

theorem forall₂_eraseIdx (h : List.Forall₂ R l l') (i : Nat) :
    List.Forall₂ R (l.eraseIdx i) (l'.eraseIdx i) := by
  induction h generalizing i with
  | nil => exact .nil
  | cons hab h ih =>
      cases i with
      | zero => exact h
      | succ i => exact .cons hab (ih i)

theorem forall₂_set_modify {f : β → β} (h : List.Forall₂ R l l') (ha : l[i]? = some a)
    (hf : ∀ b, R a b → R a' (f b)) : List.Forall₂ R (l.set i a') (l'.modify i f) := by
  induction h generalizing i with
  | nil => simp at ha
  | cons hab h ih =>
      cases i with
      | zero =>
          obtain rfl := Option.some.inj ha
          exact .cons (hf _ hab) h
      | succ i => exact .cons hab (ih ha)

end Paired

/-- The replies of the deliveries of a queue. -/
structure Ledger where
  /-- Those of the deliveries under way, in the order of the queue. -/
  underway : List (List Reply)
  /-- Those of the deliveries that have ended, in the order of the queue. -/
  ended : List (List Reply)

namespace Ledger

/-- A delivery begins. -/
def start (l : Ledger) : Ledger :=
  { l with underway := l.underway ++ [[]] }

/-- A reply comes to a delivery. -/
def bring (l : Ledger) (i : Nat) (reply : Reply) : Ledger :=
  { l with underway := l.underway.modify i (· ++ [reply]) }

/-- A delivery ends. -/
def finish (l : Ledger) (i : Nat) : Ledger :=
  ⟨l.underway.eraseIdx i, l.ended ++ l.underway[i]?.toList⟩

/-- The replies after a move: a task that is handed in begins a delivery when more tasks wait after
the move, and an attempt or a cancellation ends one when fewer do. -/
def note (l : Ledger) (s : SharedQueue) (m : QueueMove) : Ledger :=
  let left := (s.move m).queue.pending
  match m with
  | .enqueue _ _ _ => if s.queue.pending < left then l.start else l
  | .attempt i reply =>
      if left < s.queue.pending then (l.bring i reply).finish i else l.bring i reply
  | .giveUp i => if left < s.queue.pending then l.finish i else l
  | .call _ | .advance _ => l

/-- The replies after some moves. -/
def along (l : Ledger) (s : SharedQueue) : List QueueMove → Ledger
  | [] => l
  | m :: moves => (l.note s m).along (s.move m) moves

variable {l : Ledger} {s : SharedQueue} {i : Nat} {replies : List Reply} {reply : Reply}

theorem note_of_ended (h : (s.attempt i reply).queue.pending < s.queue.pending) :
    l.note s (.attempt i reply) = (l.bring i reply).finish i :=
  if_pos h

theorem note_of_repeated (h : (s.attempt i reply).queue = s.queue) :
    l.note s (.attempt i reply) = l.bring i reply := by
  apply if_neg
  rw [SharedQueue.move, h]
  exact Nat.lt_irrefl _

theorem note_of_cancelled (h : (s.giveUp i).queue.pending < s.queue.pending) :
    l.note s (.giveUp i) = l.finish i :=
  if_pos h

theorem bring_of_getElem? (h : l.underway[i]? = none) (reply : Reply) : l.bring i reply = l := by
  rw [bring, List.modify_eq_self (List.getElem?_eq_none_iff.mp h)]

theorem finish_of_getElem? (h : l.underway[i]? = some replies) :
    l.finish i = ⟨l.underway.eraseIdx i, l.ended ++ [replies]⟩ := by
  rw [finish, h]
  rfl

theorem finish_bring_of_getElem? (h : l.underway[i]? = some replies) (reply : Reply) :
    (l.bring i reply).finish i =
      ⟨l.underway.eraseIdx i, l.ended ++ [replies ++ [reply]]⟩ := by
  have hbrought : (l.bring i reply).underway[i]? = some (replies ++ [reply]) := by
    rw [bring, List.getElem?_modify_eq, h]
    rfl
  rw [finish_of_getElem? hbrought, bring, List.eraseIdx_modify_of_eq]

end Ledger

/-- The replies of the deliveries of a queue that was created with a policy, after some moves. -/
def SharedQueue.ledger (p : RetryPolicy) (moves : List QueueMove) : Ledger :=
  Ledger.along ⟨[], []⟩ (create p) moves

end SmsGateway
