import SmsGateway.EventLog.Basic

namespace SmsGateway.EventLog

/-- A log before and after some calls: what was recorded is found unchanged, and what was published
is so still. -/
def GrowsInto (log log' : EventLog) : Prop :=
  ∀ id row, log.find? id = some row →
    ∃ published, log'.find? id = some { row with published } ∧ (row.published → published)

theorem growsInto_refl (log : EventLog) : log.GrowsInto log := by
  intro id row h
  exact ⟨row.published, h, fun hpublished => hpublished⟩

theorem GrowsInto.trans {log log' log'' : EventLog} (h : log.GrowsInto log')
    (h' : log'.GrowsInto log'') : log.GrowsInto log'' := by
  intro id row hrow
  obtain ⟨published, hfound, hkept⟩ := h id row hrow
  obtain ⟨published', hfound', hkept'⟩ := h' id _ hfound
  exact ⟨published', hfound', fun hpublished => hkept' (hkept hpublished)⟩

theorem GrowsInto.isSome_find? {log log' : EventLog} (h : log.GrowsInto log') {id : String}
    (hid : (log.find? id).isSome) : (log'.find? id).isSome := by
  obtain ⟨row, hrow⟩ := Option.isSome_iff_exists.mp hid
  obtain ⟨published, hfound, -⟩ := h id row hrow
  rw [hfound]
  rfl

theorem isPublished_eq_true_iff {log : EventLog} {id : String} :
    log.isPublished id = true ↔ ∃ row, log.find? id = some row ∧ row.published = true := by
  rw [isPublished, Option.any_eq_true]

theorem GrowsInto.isPublished {log log' : EventLog} (h : log.GrowsInto log') {id : String}
    (hid : log.isPublished id = true) : log'.isPublished id = true := by
  obtain ⟨row, hrow, hpublished⟩ := isPublished_eq_true_iff.mp hid
  obtain ⟨published, hfound, hkept⟩ := h id row hrow
  exact isPublished_eq_true_iff.mpr ⟨_, hfound, hkept hpublished⟩

theorem find?_empty (id : String) : empty.find? id = none := rfl

theorem isPublished_empty (id : String) : empty.isPublished id = false := rfl

theorem create_eq_ok_iff {log log' : EventLog} {e : Envelope} :
    log.create e = .ok log' ↔
      log.find? e.id = none ∧ log' = ⟨log.rows ++ [.ofEnvelope e]⟩ := by
  rw [create]
  cases hfound : log.find? e.id with
  | none => simp [eq_comm]
  | some row => simp

theorem create_eq_error_iff {log : EventLog} {e : Envelope} {f : Failure} :
    log.create e = .error f ↔ (log.find? e.id).isSome ∧ f = .duplicateEvent e.id := by
  rw [create]
  cases hfound : log.find? e.id with
  | none => simp
  | some row => simp [eq_comm]

theorem find?_create {log log' : EventLog} {e : Envelope} (h : log.create e = .ok log')
    (id : String) :
    log'.find? id = if id = e.id then some (.ofEnvelope e) else log.find? id := by
  obtain ⟨hnew, rfl⟩ := create_eq_ok_iff.mp h
  rw [find?, List.find?_append]
  by_cases hid : id = e.id
  · subst hid
    rw [if_pos rfl, show log.rows.find? (fun r => r.id == e.id) = none from hnew]
    simp [LogRow.ofEnvelope]
  · rw [if_neg hid, find?]
    have hother : (LogRow.ofEnvelope e).id ≠ id := fun h => hid h.symm
    simp [hother]

theorem growsInto_create {log log' : EventLog} {e : Envelope} (h : log.create e = .ok log') :
    log.GrowsInto log' := by
  intro id row hrow
  have hnew := (create_eq_ok_iff.mp h).1
  have hid : id ≠ e.id := by
    rintro rfl
    simp [hnew] at hrow
  refine ⟨row.published, ?_, fun hpublished => hpublished⟩
  rw [find?_create h, if_neg hid]
  exact hrow

theorem isPublished_create {log log' : EventLog} {e : Envelope} (h : log.create e = .ok log')
    (id : String) : log'.isPublished id = log.isPublished id := by
  rw [isPublished, isPublished, find?_create h]
  by_cases hid : id = e.id
  · rw [if_pos hid, hid, (create_eq_ok_iff.mp h).1]
    rfl
  · rw [if_neg hid]

theorem markPublished_eq_ok_iff {log log' : EventLog} {id : String} :
    log.markPublished id = .ok log' ↔
      (log.find? id).isSome ∧
        log' = ⟨log.rows.map fun r => if r.id = id then { r with published := true } else r⟩ := by
  rw [markPublished]
  cases hfound : log.find? id with
  | none => simp
  | some row => simp [eq_comm]

theorem markPublished_eq_error_iff {log : EventLog} {id : String} {f : Failure} :
    log.markPublished id = .error f ↔ log.find? id = none ∧ f = .eventNotFound id := by
  rw [markPublished]
  cases hfound : log.find? id with
  | none => simp [eq_comm]
  | some row => simp

theorem id_of_find? {log : EventLog} {id : String} {row : LogRow}
    (h : log.find? id = some row) : row.id = id := by
  simpa using List.find?_some h

theorem find?_markPublished {log log' : EventLog} {id : String}
    (h : log.markPublished id = .ok log') (other : String) :
    log'.find? other =
      if other = id then (log.find? other).map fun r => { r with published := true }
      else log.find? other := by
  obtain ⟨-, rfl⟩ := markPublished_eq_ok_iff.mp h
  let mark (r : LogRow) : LogRow := if r.id = id then { r with published := true } else r
  have hkept : (fun r : LogRow => r.id == other) ∘ mark = fun r => r.id == other := by
    funext r
    by_cases hr : r.id = id <;> simp [mark, hr]
  have hmap : find? ⟨log.rows.map mark⟩ other = (log.find? other).map mark := by
    rw [find?, List.find?_map, hkept, find?]
  rw [hmap]
  cases hfound : log.find? other with
  | none => simp
  | some row => by_cases hid : other = id <;> simp [mark, id_of_find? hfound, hid]

theorem growsInto_markPublished {log log' : EventLog} {id : String}
    (h : log.markPublished id = .ok log') : log.GrowsInto log' := by
  intro other row hrow
  rw [find?_markPublished h, hrow]
  by_cases hid : other = id
  · exact ⟨true, by rw [if_pos hid]; rfl, fun _ => rfl⟩
  · exact ⟨row.published, by rw [if_neg hid], fun hpublished => hpublished⟩

theorem isPublished_markPublished {log log' : EventLog} {id : String}
    (h : log.markPublished id = .ok log') (other : String) :
    log'.isPublished other = (decide (other = id) || log.isPublished other) := by
  rw [isPublished, isPublished, find?_markPublished h]
  by_cases hid : other = id
  · subst hid
    obtain ⟨row, hrow⟩ := Option.isSome_iff_exists.mp (markPublished_eq_ok_iff.mp h).1
    simp [hrow]
  · simp [hid]

end SmsGateway.EventLog
