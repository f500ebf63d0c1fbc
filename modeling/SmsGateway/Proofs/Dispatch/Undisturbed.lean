import SmsGateway.Proofs.Dispatch.Account
import SmsGateway.Proofs.Dispatch.Ending

/-!
One dispatch that nothing comes between, over any log and whichever of its log calls are refused.
Which way it takes is settled by the rules, by what the log holds and by the refusals: it fails
without starting anybody and leaves the log alone, or it tells every listener once and then the
marking decides.
-/

namespace SmsGateway

variable {α σ : Type}

namespace World

theorem note_nil (w : World σ) : w.note [] = w := by
  rw [note, List.append_nil]

end World

namespace Stage

variable {env : Surroundings α σ} {registry : Registry α} {e : Envelope} {w : World σ}

theorem run_ended (n : Nat) (r : Except Failure Unit) (w : World σ) :
    run env registry e n (.ended r) w = (.ended r, w) := by
  induction n with
  | zero => rfl
  | succ n ih => exact ih

theorem deeds_ended (n : Nat) (r : Except Failure Unit) (w : World σ) :
    deeds env registry e n (.ended r) w = [] := by
  induction n with
  | zero => rfl
  | succ n ih => exact ih

theorem advance_of_broken {f : Failure} (hrules : e.validate = .error f) :
    advance env registry e .received w =
      (.ended (.error f), w.note [.ofError .warn "cannot dispatch invalid event" f.text]) := by
  rw [advance, hrules]
  rfl

theorem advance_of_kept (hrules : e.validate = .ok ()) :
    advance env registry e .received w = (.checked, w) := by
  rw [advance, hrules]
  exact congrArg (Prod.mk Stage.checked) w.note_nil

theorem advance_of_found (hadmitted : w.refusal? env .create = none)
    (hfound : (w.log.find? e.id).isSome) :
    advance env registry e .checked w = (.taken (.duplicateEvent e.id), w.asked env .create) := by
  have hduplicate : w.log.create e = .error (.duplicateEvent e.id) :=
    EventLog.create_eq_error_iff.mpr ⟨hfound, rfl⟩
  rw [advance, World.create, World.call_of_admitted (Prod.ext hadmitted rfl)]
  dsimp only
  rw [hduplicate]
  exact congrArg (Prod.mk _) (w.asked env .create).note_nil

theorem logDeed_of_refused {c : LogCall} {f : Failure} (hrefuse : w.refusal? env c = some f)
    (answered : Deed α) : logDeed env c w answered = .refused c f := by
  rw [logDeed, show (env.refuse c w.outside).1 = some f from hrefuse]

theorem logDeed_of_admitted {c : LogCall} (hadmitted : w.refusal? env c = none)
    (answered : Deed α) : logDeed env c w answered = answered := by
  rw [logDeed, show (env.refuse c w.outside).1 = none from hadmitted]

theorem create_mem_deeds (hrules : e.validate = .ok ()) (w : World σ) (n : Nat) :
    logDeed env .create w (if (w.log.find? e.id).isSome then .met e.id else .recorded e) ∈
      deeds env registry e (n + 2) .received w := by
  rw [deeds, advance_of_kept hrules, deeds]
  exact List.mem_append_right _ (List.mem_append_left _ (List.mem_singleton.mpr rfl))

theorem lookup_mem_deeds (hrules : e.validate = .ok ()) (hadmitted : w.refusal? env .create = none)
    (hfound : (w.log.find? e.id).isSome) (n : Nat) :
    logDeed env .isPublished (w.asked env .create) (.answered e.id (w.log.isPublished e.id)) ∈
      deeds env registry e (n + 3) .received w := by
  rw [deeds, advance_of_kept hrules, deeds, advance_of_found hadmitted hfound, deeds]
  apply List.mem_append_right
  apply List.mem_append_right
  exact List.mem_append_left _ (List.mem_singleton.mpr rfl)

end Stage

namespace Dispatcher

/-- A dispatch that fails when the outside was asked this, has told nobody and has left the log as
it was. -/
structure FailsIdly (d : Dispatcher α) (env : Surroundings α σ) (e : Envelope) (w : World σ)
    (asked : List (TraceEntry α)) (f : Failure) : Prop where
  result : (d.dispatchSync env e w).1 = some (.error f)
  trace : d.trace env e w = asked
  nobody : d.calls env e w = []
  log : (d.dispatchSync env e w).2.log = w.log

/-- How the marking, which may be refused, decides about a dispatch. -/
inductive Decided (d : Dispatcher α) (env : Surroundings α σ) (e : Envelope) (w : World σ) :
    Option Failure → Prop where
  | succeeded (hresult : (d.dispatchSync env e w).1 = some (.ok ()))
      (hmarked : (d.dispatchSync env e w).2.log.isPublished e.id = true) : Decided d env e w none
  | failed {f : Failure} (hresult : (d.dispatchSync env e w).1 = some (.error f))
      (hrecorded : ((d.dispatchSync env e w).2.log.find? e.id).isSome)
      (hunmarked : (d.dispatchSync env e w).2.log.isPublished e.id = false) :
      Decided d env e w (some f)

/-- What the log is asked before a fan-out. -/
def asksToOpen (found : Bool) : List (TraceEntry α) :=
  .log .create none :: if found then [.log .isPublished none] else []

/-- A dispatch that lets every listener handle the event once, and lets the marking decide then. -/
structure TellsAll (d : Dispatcher α) (env : Surroundings α σ) (e : Envelope) (w : World σ)
    (turns : List (Turn α)) (refusal : Option Failure) : Prop where
  trace : d.trace env e w =
    asksToOpen (w.log.find? e.id).isSome ++ turns.map .turn ++ [.log .markPublished refusal]
  wholeFanOut : WholeFanOut d.registry e (turns.map .turn)
  calls : (d.calls env e w).Perm ((d.registry.listeners e.type).map (.told · e))
  decided : d.Decided env e w refusal

/-- Which way a dispatch takes. -/
structure Settles (d : Dispatcher α) (env : Surroundings α σ) (e : Envelope) (w : World σ) :
    Prop where
  /-- Where a rule is broken, neither the log nor any listener is asked for anything. -/
  of_broken : ∀ f, e.validate = .error f →
    d.dispatchSync env e w =
        (some (.error f), w.note [.ofError .warn "cannot dispatch invalid event" f.text]) ∧
      d.trace env e w = []
  /-- Where the log refuses to record the event, that is the end. -/
  of_unsaved : e.validate = .ok () → ∀ f, w.refusal? env .create = some f →
    d.FailsIdly env e w [.log .create (some f)] f
  /-- So it is where the log does not tell whether an event that it holds is published. -/
  of_unknown : e.validate = .ok () → w.refusal? env .create = none →
    (w.log.find? e.id).isSome → ∀ f, (w.asked env .create).refusal? env .isPublished = some f →
      d.FailsIdly env e w [.log .create none, .log .isPublished (some f)] f
  /-- An event that is published is a duplicate. -/
  of_published : e.validate = .ok () → w.refusal? env .create = none →
    w.log.isPublished e.id = true → (w.asked env .create).refusal? env .isPublished = none →
      d.FailsIdly env e w [.log .create none, .log .isPublished none] (.duplicateEvent e.id)
  /-- An event that is new, or recorded and not published, is told to every listener once. -/
  of_unpublished : e.validate = .ok () → w.refusal? env .create = none →
    w.log.isPublished e.id = false →
      ((w.log.find? e.id).isSome → (w.asked env .create).refusal? env .isPublished = none) →
        (∀ t ∈ turnsIn (d.trace env e w), t.outcome.isSome) →
          ∃ turns refusal, d.TellsAll env e w turns refusal

variable {d : Dispatcher α} {env : Surroundings α σ} {e : Envelope} {w : World σ}

theorem account_dispatchSync :
    Account w.log (d.deeds env e w) (d.dispatchSync env e w).2.log := by
  rw [dispatchSync_eq]
  exact Stage.account_run _ _ _

theorem failsIdly_of_deeds {ds : List (Deed α)} {f : Failure} (hdeeds : d.deeds env e w = ds)
    (hidle : ∀ x ∈ ds, x.call? = none ∧ ¬ x.IsWrite)
    (hresult : (d.dispatchSync env e w).1 = some (.error f)) :
    d.FailsIdly env e w (ds.filterMap Deed.asked?) f := by
  subst hdeeds
  refine ⟨hresult, trace_eq_deeds w, ?_, log_dispatchSync_eq fun x hx => (hidle x hx).2⟩
  rw [calls_eq_deeds, List.filterMap_eq_nil_iff]
  intro x hx
  exact (hidle x hx).1

theorem dispatchSync_of_broken {f : Failure} (hrules : e.validate = .error f) :
    d.dispatchSync env e w =
        (some (.error f), w.note [.ofError .warn "cannot dispatch invalid event" f.text]) ∧
      d.trace env e w = [] := by
  constructor
  · rw [dispatchSync_eq, finish, Stage.run_succ, Stage.advance_of_broken hrules, Stage.run_ended]
    rfl
  · rw [trace_eq_deeds, deeds, Stage.deeds, Stage.advance_of_broken hrules, Stage.deeds_ended]
    rfl

theorem failsIdly_of_unsaved (hhonest : env.FeignsNoDuplicate) (hrules : e.validate = .ok ())
    {f : Failure} (hrefuse : w.refusal? env .create = some f) :
    d.FailsIdly env e w [.log .create (some f)] f := by
  have hrefused : .refused .create f ∈ d.deeds env e w := by
    rw [← Stage.logDeed_of_refused hrefuse]
    exact Stage.create_mem_deeds hrules w _
  refine failsIdly_of_deeds ((progress_finish hhonest w).eq_of_refused_create hrefused) ?_
    (dispatchSync_of_refused hhonest hrefused).1
  exact List.forall_mem_singleton.mpr ⟨rfl, id⟩

theorem failsIdly_of_unknown (hhonest : env.FeignsNoDuplicate) (hrules : e.validate = .ok ())
    (hadmitted : w.refusal? env .create = none) (hfound : (w.log.find? e.id).isSome) {f : Failure}
    (hrefuse : (w.asked env .create).refusal? env .isPublished = some f) :
    d.FailsIdly env e w [.log .create none, .log .isPublished (some f)] f := by
  have hrefused : .refused .isPublished f ∈ d.deeds env e w := by
    rw [← Stage.logDeed_of_refused hrefuse]
    exact Stage.lookup_mem_deeds hrules hadmitted hfound _
  refine failsIdly_of_deeds ((progress_finish hhonest w).eq_of_refused_lookup hrefused) ?_
    (dispatchSync_of_refused hhonest hrefused).1
  exact List.forall_mem_cons.mpr ⟨⟨rfl, id⟩, List.forall_mem_singleton.mpr ⟨rfl, id⟩⟩

theorem failsIdly_of_published (hhonest : env.FeignsNoDuplicate) (hrules : e.validate = .ok ())
    (hadmitted : w.refusal? env .create = none) (hpublished : w.log.isPublished e.id = true)
    (hanswer : (w.asked env .create).refusal? env .isPublished = none) :
    d.FailsIdly env e w [.log .create none, .log .isPublished none] (.duplicateEvent e.id) := by
  obtain ⟨row, hrow, -⟩ := EventLog.isPublished_eq_true_iff.mp hpublished
  have hanswered : .answered e.id true ∈ d.deeds env e w := by
    rw [← hpublished, ← Stage.logDeed_of_admitted hanswer (.answered e.id (w.log.isPublished e.id))]
    exact Stage.lookup_mem_deeds hrules hadmitted (by simp [hrow]) _
  obtain ⟨hdeeds, hended⟩ := (progress_finish hhonest w).eq_of_answered_published hanswered
  refine failsIdly_of_deeds hdeeds ?_ ?_
  · exact List.forall_mem_cons.mpr ⟨⟨rfl, id⟩, List.forall_mem_singleton.mpr ⟨rfl, id⟩⟩
  · rw [dispatchSync_eq, hended]
    rfl

theorem entries_of_opening {opening : List (Deed α)} {log log' : EventLog}
    (hopening : Stage.Opening e opening) (h : Account log opening log') :
    opening.filterMap Deed.asked? = asksToOpen (log.find? e.id).isSome := by
  rcases hopening with rfl | rfl
  · rw [(EventLog.create_eq_ok_iff.mp h.of_recorded).1]
    rfl
  · rw [h.of_met.1]
    rfl

theorem entries_of_fanningOut {registry : Registry α} {ds : List (Deed α)} {log log' : EventLog}
    (hfan : Stage.FanningOut registry e ds [] []) (h : Account log ds log') :
    ∃ turns : List (Turn α), ds.filterMap Deed.asked? =
        asksToOpen (log.find? e.id).isSome ++ turns.map .turn ∧
      WholeFanOut registry e (turns.map .turn) := by
  obtain ⟨opening, rest, turns, hopening, rfl, hrest, hwhole⟩ := hfan.exists_turns
  obtain ⟨opened, hbefore, -⟩ := h.exists_of_append
  refine ⟨turns, ?_, hwhole⟩
  rw [List.filterMap_append, entries_of_opening hopening hbefore, hrest]

theorem tellsAll_of_fanningOut {ds : List (Deed α)} {last : Deed α} {refusal : Option Failure}
    (hdeeds : d.deeds env e w = ds ++ [last]) (hfan : Stage.FanningOut d.registry e ds [] [])
    (hlast : last.asked? = some (.log .markPublished refusal))
    (hdecided : d.Decided env e w refusal) : ∃ turns refusal, d.TellsAll env e w turns refusal := by
  have haccount : Account w.log (d.deeds env e w) (d.dispatchSync env e w).2.log :=
    account_dispatchSync
  rw [hdeeds] at haccount
  obtain ⟨between, hbefore, -⟩ := haccount.exists_of_append
  obtain ⟨turns, hentries, hwhole⟩ := entries_of_fanningOut hfan hbefore
  have htrace : d.trace env e w =
      asksToOpen (w.log.find? e.id).isSome ++ turns.map .turn ++ [.log .markPublished refusal] := by
    rw [trace_eq_deeds, hdeeds, List.filterMap_append, hentries, List.filterMap_cons, hlast]
    rfl
  refine ⟨turns, refusal, htrace, hwhole, ?_, hdecided⟩
  rw [calls_eq_turns, trace_eq_deeds, hdeeds, List.filterMap_append]
  refine (hfan.wholeFanOut.append ?_).told_once
  rw [List.filterMap_cons, hlast]
  rfl

theorem tellsAll_of_unpublished (hhonest : env.FeignsNoDuplicate) (hrules : e.validate = .ok ())
    (hadmitted : w.refusal? env .create = none) (hunpublished : w.log.isPublished e.id = false)
    (hanswer : (w.log.find? e.id).isSome →
      (w.asked env .create).refusal? env .isPublished = none)
    (hended : ∀ t ∈ turnsIn (d.trace env e w), t.outcome.isSome) :
    ∃ turns refusal, d.TellsAll env e w turns refusal := by
  obtain ⟨r, hr⟩ := dispatchSync_ends_of_turns hended
  have hprogress := progress_dispatchSync hhonest (Prod.ext hr rfl)
  have haccount : Account w.log (d.deeds env e w) (d.dispatchSync env e w).2.log :=
    account_dispatchSync
  have hcreate : (if (w.log.find? e.id).isSome then .met e.id else .recorded e) ∈
      d.deeds env e w := by
    have hasked : Stage.logDeed env .create w _ ∈ d.deeds env e w :=
      Stage.create_mem_deeds hrules w _
    rwa [Stage.logDeed_of_admitted hadmitted] at hasked
  have hlookup (hfound : (w.log.find? e.id).isSome) : ∃ p, .answered e.id p ∈ d.deeds env e w := by
    refine ⟨w.log.isPublished e.id, ?_⟩
    rw [← Stage.logDeed_of_admitted (hanswer hfound) (.answered _ _)]
    exact Stage.lookup_mem_deeds hrules hadmitted hfound _
  generalize hdeeds : d.deeds env e w = deeds at hprogress haccount hcreate hlookup
  cases hprogress with
  | invalid hbroken =>
      rw [hrules] at hbroken
      simp at hbroken
  | unrecorded hrefuse =>
      split at hcreate <;> simp at hcreate
  | duplicate _ =>
      have hpublished := haccount.of_met.2.of_answered.1
      rw [hunpublished] at hpublished
      simp at hpublished
  | unknown hrefuse =>
      obtain ⟨published, hmem⟩ := hlookup haccount.of_met.1
      simp at hmem
  | unmarked hfan hrefuse =>
      obtain ⟨log, hbefore, hlast⟩ := haccount.exists_of_append
      obtain ⟨-, hfound, hunmarked⟩ := hfan.account hbefore
      rw [← hlast.eq_of_refused] at hfound hunmarked
      exact tellsAll_of_fanningOut hdeeds hfan rfl (.failed hr hfound hunmarked)
  | marked hfan hpublished =>
      exact tellsAll_of_fanningOut hdeeds hfan rfl (.succeeded hr hpublished)

/-- One dispatch that nothing comes between goes the way that the rules, the log and the refusals
give it. -/
theorem settles (hhonest : env.FeignsNoDuplicate) : d.Settles env e w where
  of_broken _ hrules := dispatchSync_of_broken hrules
  of_unsaved hrules _ hrefuse := failsIdly_of_unsaved hhonest hrules hrefuse
  of_unknown hrules hadmitted hfound _ hrefuse :=
    failsIdly_of_unknown hhonest hrules hadmitted hfound hrefuse
  of_published hrules hadmitted hpublished hanswer :=
    failsIdly_of_published hhonest hrules hadmitted hpublished hanswer
  of_unpublished hrules hadmitted hunpublished hanswer hended :=
    tellsAll_of_unpublished hhonest hrules hadmitted hunpublished hanswer hended

end Dispatcher

end SmsGateway
