import Mathlib.Data.List.Perm.Basic
import SmsGateway.Dispatch.Concurrent
import SmsGateway.Proofs.Dispatch.Trace

namespace SmsGateway

variable {α σ κ : Type}

/-- The call that takes a move. -/
def Move.call? : Move → Option Nat
  | .submit _ => none
  | .advance i | .tell i _ | .drop i => some i

namespace Dispatches

/-- No calls over an empty log. -/
def start (notices : List Notice) (outside : σ) : Dispatches α σ :=
  ⟨[], ⟨.empty, notices, outside⟩⟩

/-- What a move does, and which call does it. -/
def deed? (env : Surroundings α σ) (s : Dispatches α σ) : Move → Option (Nat × Deed α)
  | .submit _ | .drop _ => none
  | .advance i =>
      match s.calls[i]? with
      | some call =>
          if call.dropped then none
          else (call.stage.deed? env call.event s.world).map (i, ·)
      | none => none
  | .tell i j =>
      match s.calls[i]? with
      | some call =>
          match call.dropped, call.stage with
          | false, .publishing f =>
              f.waiting[j]?.map fun listener =>
                (i, .told listener call.event
                  (env.handle listener call.event s.world.log s.world.outside).1)
          | _, _ => none
      | none => none

/-- What a move can come to: the deed, and the calls and the world after it. -/
inductive Change (env : Surroundings α σ) (registry : Registry α) (s : Dispatches α σ) :
    Option (Nat × Deed α) → Dispatches α σ → Prop where
  | submit (e : Envelope) :
      Change env registry s none { s with calls := s.calls ++ [⟨e, .received, false⟩] }
  | drop {i : Nat} {call : DispatchCall α} (hcall : s.calls[i]? = some call) :
      Change env registry s none { s with calls := s.calls.set i { call with dropped := true } }
  | step {i : Nat} {call : DispatchCall α} {d : Option (Deed α)} {after : Stage α × World σ}
      (hcall : s.calls[i]? = some call)
      (hstep : Stage.Step env registry call.event call.stage s.world.log d after.1 after.2.log) :
      Change env registry s (d.map (i, ·)) (s.withCall i call after)
  | idle : Change env registry s none s

theorem change_move (env : Surroundings α σ) (registry : Registry α) (s : Dispatches α σ)
    (m : Move) : Change env registry s (s.deed? env m) (s.move env registry m) := by
  cases m with
  | submit e => exact .submit e
  | drop i =>
      simp only [deed?, move]
      cases hcall : s.calls[i]? with
      | none => exact .idle
      | some call => exact .drop hcall
  | advance i =>
      simp only [deed?, move]
      cases hcall : s.calls[i]? with
      | none => exact .idle
      | some call =>
          cases hdropped : call.dropped with
          | true => simpa [hdropped] using .idle
          | false => simpa [hdropped] using .step hcall (Stage.step_advance call.stage s.world)
  | tell i j =>
      simp only [deed?, move]
      cases hcall : s.calls[i]? with
      | none => exact .idle
      | some call =>
          obtain ⟨e, stage, dropped⟩ := call
          cases dropped with
          | true => exact .idle
          | false =>
              cases stage with
              | publishing f =>
                  cases hlistener : f.waiting[j]? with
                  | none => simpa [hlistener] using .idle
                  | some listener =>
                      have hwaiting : f.waiting.Perm (listener :: f.waiting.eraseIdx j) := by
                        obtain ⟨hj, rfl⟩ := List.getElem?_eq_some_iff.mp hlistener
                        exact (List.getElem_cons_eraseIdx_perm hj).symm
                      simpa [hlistener] using .step hcall (Stage.step_tell s.world hwaiting)
              | _ => exact .idle

def beside (s : Dispatches α σ) (record : List κ) : Dispatches α (σ × List κ) :=
  ⟨s.calls, s.world.beside record⟩

variable {env : Surroundings α σ} {env' : Surroundings α (σ × List κ)}
  {keep : TraceEntry α → Option κ} {registry : Registry α}

theorem call?_of_deed? {s : Dispatches α σ} {m : Move} {i : Nat} {d : Deed α}
    (h : s.deed? env m = some (i, d)) : m.call? = some i := by
  cases m with
  | submit e | drop j => simp [deed?] at h
  | advance j | tell j k =>
      simp only [deed?] at h
      repeat' split at h
      all_goals grind [Move.call?, Option.map_eq_some_iff]

/-- A move is the same beside a record, and the record shows what it does. -/
theorem move_records (h : env'.Records env keep) (s : Dispatches α σ) (m : Move)
    (record : List κ) :
    (s.beside record).move env' registry m =
      (s.move env registry m).beside
        (record ++ ((s.deed? env m).bind fun x => x.2.asked?.bind keep).toList) := by
  have hnone : record ++ (none : Option κ).toList = record := List.append_nil record
  cases m with
  | submit e =>
      rw [deed?, Option.bind_none, hnone]
      rfl
  | drop i =>
      rw [deed?, Option.bind_none, hnone]
      simp only [move, beside]
      cases s.calls[i]? <;> rfl
  | advance i =>
      simp only [move, deed?, beside]
      cases s.calls[i]? with
      | none => exact congrArg (s.beside ·) hnone.symm
      | some call =>
          cases hdropped : call.dropped with
          | true => simp [hdropped]
          | false =>
              simp only [hdropped, Bool.false_eq_true, ↓reduceIte, Stage.advance_records h,
                Option.bind_map]
              rfl
  | tell i j =>
      simp only [move, deed?, beside]
      cases s.calls[i]? with
      | none => exact congrArg (s.beside ·) hnone.symm
      | some call =>
          obtain ⟨e, stage, dropped⟩ := call
          cases dropped with
          | true => exact congrArg (s.beside ·) hnone.symm
          | false =>
              cases stage with
              | publishing f =>
                  cases hlistener : f.waiting[j]? with
                  | none => simp [hlistener]
                  | some listener =>
                      simp only [hlistener, Stage.tell_records h]
                      rfl
              | _ => exact congrArg (s.beside ·) hnone.symm

theorem growsInto_move (s : Dispatches α σ) (m : Move) :
    s.world.log.GrowsInto (s.move env registry m).world.log := by
  have hchange := change_move env registry s m
  generalize s.deed? env m = d, s.move env registry m = s' at hchange
  cases hchange with
  | step hcall hstep => exact hstep.growsInto
  | _ => exact EventLog.growsInto_refl _

theorem growsInto_run (s : Dispatches α σ) (moves : List Move) :
    s.world.log.GrowsInto (s.run env registry moves).world.log := by
  induction moves generalizing s with
  | nil => exact EventLog.growsInto_refl _
  | cons m moves ih => exact (growsInto_move s m).trans (ih _)

end Dispatches

end SmsGateway
