import SmsGateway.EventLog.Directory

namespace SmsGateway.Directory

variable {d d' : Directory} {below p q : List String}

theorem lookup_filter_ne (nodes : List (List String × Node)) (p q : List String) :
    (nodes.filter fun x => x.1 ≠ p).lookup q = if q = p then none else nodes.lookup q := by
  induction nodes with
  | nil => simp
  | cons x rest ih =>
      obtain ⟨path, n⟩ := x
      rw [List.lookup_cons]
      by_cases hpath : path = p
      · subst hpath
        rw [List.filter_cons_of_neg (by simp), ih]
        by_cases hq : q = path
        · rw [if_pos hq, if_pos hq]
        · rw [if_neg hq, if_neg hq, beq_eq_false_iff_ne.mpr hq]
      · rw [List.filter_cons_of_pos (by simpa using hpath), List.lookup_cons, ih]
        by_cases hq : q = path
        · subst hq
          simp [hpath]
        · simp [beq_eq_false_iff_ne.mpr hq]

theorem find?_put (d : Directory) (hp : p ≠ []) (n : Node) (q : List String) :
    (d.put p n).find? q = if q = p then some n else d.find? q := by
  rw [find?, find?, put, List.lookup_append, lookup_filter_ne, List.lookup_cons]
  by_cases hq : q = p
  · subst hq
    simp [hp]
  · rw [if_neg hq, if_neg hq, beq_eq_false_iff_ne.mpr hq]
    simp

/-- Every beginning of a path below another one is a directory. -/
def Leads (d : Directory) (below : List String) : List String → Prop
  | [] => True
  | name :: rest =>
      d.find? (below ++ [name]) = some .directory ∧ d.Leads (below ++ [name]) rest

theorem makeDirectories_of_leads {names : List String} (h : d.Leads below names) :
    makeDirectories below names d = some d := by
  induction names generalizing below with
  | nil => rfl
  | cons name rest ih =>
      rw [makeDirectories, h.1]
      exact ih h.2

theorem find?_makeDirectories {names : List String}
    (h : makeDirectories below names d = some d') {n : Node} (hfound : d.find? q = some n) :
    d'.find? q = some n := by
  induction names generalizing below d with
  | nil =>
      obtain rfl := Option.some.inj h
      exact hfound
  | cons name rest ih =>
      rw [makeDirectories] at h
      cases hnext : d.find? (below ++ [name]) with
      | none =>
          rw [hnext] at h
          refine ih h ?_
          rw [find?_put d (by simp), if_neg ?_, hfound]
          rintro rfl
          rw [hnext] at hfound
          simp at hfound
      | some n' =>
          rw [hnext] at h
          cases n' with
          | directory => exact ih h hfound
          | file _ | log _ => simp at h

theorem leads_of_makeDirectories {names : List String}
    (h : makeDirectories below names d = some d') : d'.Leads below names := by
  induction names generalizing below d with
  | nil => trivial
  | cons name rest ih =>
      rw [makeDirectories] at h
      cases hnext : d.find? (below ++ [name]) with
      | none =>
          rw [hnext] at h
          refine ⟨find?_makeDirectories h ?_, ih h⟩
          rw [find?_put d (by simp), if_pos rfl]
      | some n =>
          rw [hnext] at h
          cases n with
          | directory => exact ⟨find?_makeDirectories h hnext, ih h⟩
          | file _ | log _ => simp at h

theorem Leads.put {names : List String} (h : d.Leads below names)
    (hp : below.length + names.length < p.length) (n : Node) : (d.put p n).Leads below names := by
  induction names generalizing below with
  | nil => trivial
  | cons name rest ih =>
      have hne : p ≠ [] := by
        rintro rfl
        simp at hp
      have hother : below ++ [name] ≠ p := by
        rintro rfl
        simp at hp
      refine ⟨?_, ih h.2 ?_⟩
      · rw [find?_put d hne, if_neg hother, h.1]
      · simp only [List.length_append, List.length_cons, List.length_nil] at hp ⊢
        omega

/-- A path that names a file of an event log. -/
structure NamesLog (path : String) (p : List String) : Prop where
  stored : ¬ isInMemory path
  names : names path = p

/-- The log under a path is open, so that everybody who opens it gets to see it. -/
structure HoldsLog (d : Directory) (p : List String) (l : EventLog) : Prop where
  root : p ≠ []
  directories : d.Leads [] p.dropLast
  log : d.find? p = some (.log l)

theorem HoldsLog.log_eq {l : EventLog} (h : d.HoldsLog p l) : d.log p = l := by
  rw [Directory.log, h.log]

theorem holdsLog_put (hroot : p ≠ []) (hdirectories : d.Leads [] p.dropLast) (l : EventLog) :
    (d.put p (.log l)).HoldsLog p l := by
  refine ⟨hroot, hdirectories.put ?_ _, ?_⟩
  · have hlength := List.length_pos_iff.mpr hroot
    rw [List.length_dropLast, List.length_nil]
    omega
  · rw [find?_put d hroot, if_pos rfl]

/-- A log that is open can be opened again, under any of its paths, and nothing changes. -/
theorem HoldsLog.openLog {l : EventLog} (h : d.HoldsLog p l) {path : String}
    (hpath : NamesLog path p) : d.openLog path = (.ok (.stored p), d) := by
  rw [Directory.openLog]
  simp only [if_neg hpath.stored, hpath.names, makeDirectories_of_leads h.directories, h.log]

/-- What opening a log in a file comes to: the directories on the way are made, and the log is put
where nothing or an empty file is, or it is there already. -/
theorem exists_of_openLog {path : String} (h : d.openLog path = (.ok (.stored p), d')) :
    NamesLog path p ∧ ∃ made, makeDirectories [] p.dropLast d = some made ∧
      ((made.find? p = none ∨ made.find? p = some (.file [])) ∧ d' = made.put p (.log .empty) ∨
        ∃ l, made.find? p = some (.log l) ∧ d' = made) := by
  rw [Directory.openLog] at h
  split at h
  · simp at h
  · next hstored =>
      split at h
      · simp at h
      · next made hmade =>
          generalize hp : Directory.names path = q at hmade h
          split at h <;> simp only [Prod.mk.injEq, reduceCtorEq, false_and] at h
          all_goals
            obtain ⟨hq, rfl⟩ := h
            obtain rfl : q = p := by simpa using hq
          · next hnode => exact ⟨⟨hstored, hp⟩, made, hmade, .inl ⟨.inl hnode, rfl⟩⟩
          · next hnode => exact ⟨⟨hstored, hp⟩, made, hmade, .inl ⟨.inr hnode, rfl⟩⟩
          · next l hnode => exact ⟨⟨hstored, hp⟩, _, hmade, .inr ⟨l, hnode, rfl⟩⟩

theorem holdsLog_of_openLog {path : String} (h : d.openLog path = (.ok (.stored p), d')) :
    NamesLog path p ∧ d'.HoldsLog p (d'.log p) := by
  obtain ⟨hnames, made, hmade, hnode⟩ := exists_of_openLog h
  have hleads : made.Leads [] p.dropLast := leads_of_makeDirectories hmade
  have hroot : made.find? p ≠ some .directory → p ≠ [] := by
    rintro hnode rfl
    exact hnode rfl
  refine ⟨hnames, ?_⟩
  rcases hnode with ⟨hfree, rfl⟩ | ⟨l, hlog, rfl⟩
  · have hholds : (made.put p (.log .empty)).HoldsLog p .empty := by
      refine holdsLog_put (hroot ?_) hleads .empty
      rcases hfree with hfree | hfree <;> simp [hfree]
    exact hholds.log_eq.symm ▸ hholds
  · have hholds : HoldsLog d' p l := ⟨hroot (by simp [hlog]), hleads, hlog⟩
    exact hholds.log_eq.symm ▸ hholds

end SmsGateway.Directory
