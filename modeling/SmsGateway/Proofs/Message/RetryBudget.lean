import SmsGateway.Proofs.Message.Bookkeeping

namespace SmsGateway

open SmsGateway.Time

namespace Message

theorem sendAttemptCount_apply (m : Message) (now : Instant) (t : Transition) :
    (m.apply now t).sendAttemptCount.toNat =
      if t = .countAttempt then min (m.sendAttemptCount.toNat + 1) (UInt32.size - 1)
      else m.sendAttemptCount.toNat := by
  have hfits : m.sendAttemptCount.toNat < 4294967296 := m.sendAttemptCount.toNat_lt
  cases t with
  | countAttempt =>
      change (if m.sendAttemptCount < 4294967295 then m.sendAttemptCount + 1
        else m.sendAttemptCount).toNat = min (m.sendAttemptCount.toNat + 1) 4294967295
      have hlt : m.sendAttemptCount < 4294967295 ↔ m.sendAttemptCount.toNat < 4294967295 :=
        UInt32.lt_iff_toNat_lt
      split
      · next hbelow =>
          rw [hlt] at hbelow
          rw [UInt32.toNat_add]
          change (m.sendAttemptCount.toNat + 1) % 4294967296 = _
          omega
      · next hfull =>
          rw [hlt] at hfull
          omega
  | _ => rfl

theorem sendAttemptCount_hear (m : Message) (tidings : List (Instant × Tiding)) :
    (m.hear tidings).sendAttemptCount.toNat =
      min (m.sendAttemptCount.toNat + (transitions tidings).count .countAttempt)
        (UInt32.size - 1) := by
  have hfits : m.sendAttemptCount.toNat < UInt32.size := m.sendAttemptCount.toNat_lt
  induction tidings using List.reverseRecOn with
  | nil =>
      change m.sendAttemptCount.toNat = min m.sendAttemptCount.toNat (UInt32.size - 1)
      omega
  | append_singleton tidings x ih =>
      rw [hear_concat, sendAttemptCount_apply, ih, transitions_concat, List.count_append,
        List.count_singleton]
      simp only [beq_iff_eq]
      split <;> omega

theorem canBeRescheduled_iff (m : Message) :
    m.canBeRescheduled = true ↔ m.sendAttemptCount.toNat < m.maxSendAttempts.toNat := by
  rw [canBeRescheduled, decide_eq_true_iff, UInt32.lt_iff_toNat_lt]

theorem canBeRescheduled_hear (m : Message) {tidings : List (Instant × Tiding)}
    (hlife : ∀ x ∈ tidings, x.2.transition.isLifecycle) :
    (m.hear tidings).canBeRescheduled = true ↔
      m.sendAttemptCount.toNat + (transitions tidings).count .countAttempt <
        m.maxSendAttempts.toNat := by
  have hfits : m.maxSendAttempts.toNat < UInt32.size := m.maxSendAttempts.toNat_lt
  rw [canBeRescheduled_iff, sendAttemptCount_hear, (isSame_hear m hlife).maxSendAttempts]
  omega

/-- A round of a scheduler: what the message hears of in the meantime, and when its turn comes. -/
structure Round where
  meanwhile : List (Instant × Tiding)
  now : Instant

/-- Whether nobody but the scheduler counts attempts in a round. -/
def Round.isQuiet (r : Round) : Bool :=
  r.meanwhile.all fun x => x.2.transition.isLifecycle && x.2.transition != .countAttempt

/-- A scheduler counts one attempt each time that another one is allowed. What it leaves of the
message after some rounds, and the attempts that it made. -/
def schedule (m : Message) : List Round → Message × Nat
  | [] => (m, 0)
  | r :: rounds =>
      let heard := m.hear r.meanwhile
      if heard.canBeRescheduled then
        let (after, attempts) := (heard.apply r.now .countAttempt).schedule rounds
        (after, attempts + 1)
      else heard.schedule rounds

/-- How many attempts are left until the limit is reached. -/
def attemptsLeft (m : Message) : Nat :=
  m.maxSendAttempts.toNat - m.sendAttemptCount.toNat

theorem canBeRescheduled_iff_left (m : Message) :
    m.canBeRescheduled = true ↔ 0 < m.attemptsLeft := by
  rw [canBeRescheduled_iff, attemptsLeft, Nat.sub_pos_iff_lt]

theorem attemptsLeft_countAttempt {m : Message} (h : m.canBeRescheduled = true) (now : Instant) :
    (m.apply now .countAttempt).attemptsLeft + 1 = m.attemptsLeft := by
  have hlimit : m.maxSendAttempts.toNat < UInt32.size := m.maxSendAttempts.toNat_lt
  have hsame : (m.apply now .countAttempt).maxSendAttempts = m.maxSendAttempts := rfl
  rw [canBeRescheduled_iff] at h
  rw [attemptsLeft, attemptsLeft, sendAttemptCount_apply, if_pos rfl, hsame]
  omega

theorem attemptsLeft_of_isQuiet (m : Message) {r : Round} (h : r.isQuiet) :
    (m.hear r.meanwhile).attemptsLeft = m.attemptsLeft := by
  simp only [Round.isQuiet, List.all_eq_true, Bool.and_eq_true, bne_iff_ne] at h
  have hnone : (transitions r.meanwhile).count .countAttempt = 0 := by
    rw [List.count_eq_zero]
    intro hmem
    obtain ⟨x, hx, heq⟩ := List.mem_map.mp hmem
    exact (h x hx).2 heq
  have hsame := (isSame_hear m fun x hx => (h x hx).1).maxSendAttempts
  have hfits : m.sendAttemptCount.toNat < UInt32.size := m.sendAttemptCount.toNat_lt
  rw [attemptsLeft, attemptsLeft, sendAttemptCount_hear, hnone, hsame]
  omega

/-- A scheduler makes an attempt in each round until the attempts that were left are made. -/
theorem schedule_spec (m : Message) {rounds : List Round} (h : ∀ r ∈ rounds, r.isQuiet) :
    (m.schedule rounds).2 = min rounds.length m.attemptsLeft ∧
      (m.attemptsLeft ≤ rounds.length → (m.schedule rounds).1.canBeRescheduled = false) := by
  induction rounds generalizing m with
  | nil =>
      constructor
      · exact (Nat.zero_min _).symm
      · intro hspent
        change m.canBeRescheduled = false
        rw [← Bool.not_eq_true, canBeRescheduled_iff_left, Nat.not_lt]
        exact hspent
  | cons r rounds ih =>
      obtain ⟨hquiet, hrest⟩ := List.forall_mem_cons.mp h
      have hheard := attemptsLeft_of_isQuiet m hquiet
      rw [schedule, List.length_cons]
      split
      · next hallowed =>
          have hcounted := attemptsLeft_countAttempt hallowed r.now
          obtain ⟨hattempts, hend⟩ := ih ((m.hear r.meanwhile).apply r.now .countAttempt) hrest
          constructor
          · change (schedule _ rounds).2 + 1 = _
            omega
          · intro hlong
            exact hend (by omega)
      · next hspent =>
          rw [canBeRescheduled_iff_left] at hspent
          obtain ⟨hattempts, hend⟩ := ih (m.hear r.meanwhile) hrest
          constructor
          · omega
          · intro hlong
            exact hend (by omega)

/-- However many attempts are counted in the life of a message and whatever else happens to it, the
counter holds them as far as it can, another attempt is allowed exactly if fewer were counted than
the limit, and what is not allowed any more never will be. A scheduler makes the attempts that were
left and no other. -/
theorem attempts_are_budgeted (m : Message) (tidings : List (Instant × Tiding))
    (hlife : ∀ x ∈ tidings, x.2.transition.isLifecycle) :
    let counted := m.sendAttemptCount.toNat + (transitions tidings).count .countAttempt
    (m.hear tidings).sendAttemptCount.toNat = min counted (UInt32.size - 1) ∧
      ((m.hear tidings).canBeRescheduled = true ↔ counted < m.maxSendAttempts.toNat) ∧
      (∀ before, before <+: tidings → (m.hear before).canBeRescheduled = false →
        (m.hear tidings).canBeRescheduled = false) ∧
      ∀ rounds : List Round, (∀ r ∈ rounds, r.isQuiet) →
        let left := m.maxSendAttempts.toNat - m.sendAttemptCount.toNat
        (m.schedule rounds).2 = min rounds.length left ∧
          (left ≤ rounds.length → (m.schedule rounds).1.canBeRescheduled = false) := by
  intro counted
  refine ⟨sendAttemptCount_hear m tidings, canBeRescheduled_hear m hlife, ?_,
    fun rounds => schedule_spec m⟩
  rintro before ⟨after, rfl⟩ hspent
  obtain ⟨hbefore, -⟩ := List.forall_mem_append.mp hlife
  rw [← Bool.not_eq_true, canBeRescheduled_hear m hbefore] at hspent
  rw [← Bool.not_eq_true, canBeRescheduled_hear m hlife, transitions, List.map_append,
    List.count_append]
  change ¬ m.sendAttemptCount.toNat + (before.map fun x => x.2.transition).count _ < _ at hspent
  omega

theorem attempts_are_budgeted_full :
    let t (second : Fin 86400) : Instant :=
      ⟨⟨2024, 6, 5, by decide, by decide⟩, second, 0, second.isLt, by decide⟩
    let m :=
      { outbound ⟨List.replicate 16 0, rfl⟩ "+18005550199" "+18005550100" "hello" "user-1" (t 0) with
        sendAttemptCount := 4294967294
        maxSendAttempts := 4294967295 }
    let before : List (Instant × Tiding) :=
      [(t 1, .made .countAttempt), (t 2, .made (.sendAttempt (t 2)))]
    let tidings := before ++
      [(t 3, .reported .failed (t 3) (some "BUSY")), (t 4, .made .countAttempt),
        (t 5, .made (.expired (t 5))), (t 6, .made .countAttempt)]
    let rounds : List Round :=
      [⟨[(t 1, .made (.sendAttempt (t 1)))], t 2⟩, ⟨[(t 3, .reported .failed (t 3) none)], t 4⟩,
        ⟨[], t 5⟩]
    (∀ x ∈ tidings, x.2.transition.isLifecycle) ∧ before <+: tidings ∧
      (∀ r ∈ rounds, r.isQuiet) ∧ m.canBeRescheduled = true ∧
      (m.hear before).canBeRescheduled = false ∧
      (m.hear tidings).sendAttemptCount.toNat = 4294967295 ∧
      (m.hear tidings).canBeRescheduled = false ∧
      (m.schedule rounds).2 = 1 ∧ (m.schedule rounds).1.canBeRescheduled = false := by
  intro t m before tidings rounds
  have hlife : ∀ x ∈ tidings, x.2.transition.isLifecycle := by decide +kernel
  have hbefore : before <+: tidings := List.prefix_append _ _
  have hquiet : ∀ r ∈ rounds, r.isQuiet := by decide +kernel
  have hspent : (m.hear before).canBeRescheduled = false := by decide +kernel
  obtain ⟨hcount, -, hstays, hrounds⟩ := attempts_are_budgeted m tidings hlife
  obtain ⟨hattempts, hend⟩ := hrounds rounds hquiet
  refine ⟨hlife, hbefore, hquiet, by decide +kernel, hspent, ?_, hstays before hbefore hspent, ?_,
    ?_⟩
  · rw [hcount]
    decide +kernel
  · rw [hattempts]
    decide +kernel
  · exact hend (by decide +kernel)

end Message

end SmsGateway
