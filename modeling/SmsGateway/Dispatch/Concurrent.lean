import SmsGateway.Dispatch.Stage

/-!
Dispatches that overlap. Any number of calls share one world; a move hands in an event, takes one
step of one call, lets a listener out of turn handle its event, or drops a call. Every order of the
steps of all calls is a list of moves.
-/

namespace SmsGateway

/-- A dispatch under way. -/
structure DispatchCall (α : Type) where
  event : Envelope
  stage : Stage α
  /-- Whether the caller has given up waiting. -/
  dropped : Bool

/-- Calls that share a world. -/
structure Dispatches (α σ : Type) where
  calls : List (DispatchCall α)
  world : World σ

/-- What may happen next. -/
inductive Move where
  /-- An event is handed in. -/
  | submit (e : Envelope)
  /-- A call takes its next step. -/
  | advance (call : Nat)
  /-- A waiting listener of a call gets its turn before the ones in front of it. -/
  | tell (call listener : Nat)
  | drop (call : Nat)

namespace Dispatches

variable {α σ : Type}

/-- Puts a call where it has come to. -/
def withCall (s : Dispatches α σ) (i : Nat) (call : DispatchCall α)
    (after : Stage α × World σ) : Dispatches α σ :=
  ⟨s.calls.set i { call with stage := after.1 }, after.2⟩

/-- The effect of a move; a move of a call that is not under way has none. -/
def move (env : Surroundings α σ) (registry : Registry α) (s : Dispatches α σ) :
    Move → Dispatches α σ
  | .submit e => { s with calls := s.calls ++ [⟨e, .received, false⟩] }
  | .advance i =>
      match s.calls[i]? with
      | some call =>
          if call.dropped then s
          else s.withCall i call (call.stage.advance env registry call.event s.world)
      | none => s
  | .tell i j =>
      match s.calls[i]? with
      | some call =>
          match call.dropped, call.stage with
          | false, .publishing f =>
              match f.waiting[j]? with
              | some listener =>
                  s.withCall i call
                    (Stage.tell env call.event f listener (f.waiting.eraseIdx j) s.world)
              | none => s
          | _, _ => s
      | none => s
  | .drop i =>
      match s.calls[i]? with
      | some call => { s with calls := s.calls.set i { call with dropped := true } }
      | none => s

def run (env : Surroundings α σ) (registry : Registry α) (s : Dispatches α σ) (moves : List Move) :
    Dispatches α σ :=
  moves.foldl (move env registry) s

end Dispatches

end SmsGateway
