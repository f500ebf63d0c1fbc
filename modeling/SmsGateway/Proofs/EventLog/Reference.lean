import SmsGateway.EventLog.Shared
import SmsGateway.Proofs.Event.Lossless
import SmsGateway.Proofs.EventLog.Opening
import SmsGateway.Proofs.EventLog.Rows

namespace SmsGateway

namespace EventLog

/-- Adds a row to the table, whose primary key is the id. The failure is the database's result
code. -/
def insert (log : EventLog) (row : LogRow) : Except Nat EventLog :=
  match log.find? row.id with
  | some _ => .error Failure.primaryKeyTaken
  | none => .ok ⟨log.rows ++ [row]⟩

/-- A failure to add the row of an event. -/
def insertFailure (id : String) (code : Nat) : Failure :=
  if (Failure.database code).isDuplicate then .duplicateEvent id else .database code

/-- An event is recorded by adding its row; that the primary key is taken is reported as a duplicate
of the id. -/
theorem create_eq_insert (log : EventLog) (e : Envelope) :
    log.create e = (log.insert (.ofEnvelope e)).mapError (insertFailure e.id) := by
  rw [create, insert, show (LogRow.ofEnvelope e).id = e.id from rfl]
  cases log.find? e.id <;> rfl

end EventLog

/-- What a shared log amounts to. -/
structure ReferenceLog where
  /-- How many handles there are. -/
  handles : Nat
  /-- The envelope of each id that was recorded, and whether it is published. -/
  entry : String → Option (Envelope × Bool)
  /-- How many recordings have succeeded. -/
  recordings : Nat

namespace ReferenceLog

/-- One handle of a log without events. -/
def opened : ReferenceLog := ⟨1, fun _ => none, 0⟩

/-- Sets the entry of an id. -/
def set (m : ReferenceLog) (id : String) (x : Envelope × Bool) : ReferenceLog :=
  { m with entry := fun other => if other = id then some x else m.entry other }

/-- The answer to a call, and what the log amounts to after it. -/
def answer (m : ReferenceLog) : LogRequest → LogReply × ReferenceLog
  | .create e =>
      match m.entry e.id with
      | some _ => (.created (.error (.duplicateEvent e.id)), m)
      | none => (.created (.ok ()), { m.set e.id (e, false) with recordings := m.recordings + 1 })
  | .load id => (.loaded (.ok ((m.entry id).map (·.1))), m)
  | .markPublished id =>
      match m.entry id with
      | some (e, _) => (.marked (.ok ()), m.set id (e, true))
      | none => (.marked (.error (.eventNotFound id)), m)
  | .isPublished id => (.published ((m.entry id).any (·.2)), m)
  | .count => (.counted m.recordings, m)

@[simp] theorem handles_answer (m : ReferenceLog) (request : LogRequest) :
    (m.answer request).2.handles = m.handles := by
  cases request with
  | create e => cases h : m.entry e.id <;> simp [answer, h, set]
  | markPublished id => cases h : m.entry id <;> simp [answer, h, set]
  | _ => rfl

/-- What comes of an access. -/
def access (m : ReferenceLog) : LogAccess → Option LogReply × ReferenceLog
  | .openFile _ => (some (.opened (.ok ())), { m with handles := m.handles + 1 })
  | .clone i => (none, { m with handles := m.handles + if i < m.handles then 1 else 0 })
  | .close i => (none, { m with handles := m.handles - if i < m.handles then 1 else 0 })
  | .call i request =>
      if i < m.handles then (some (m.answer request).1, (m.answer request).2) else (none, m)

/-- What comes of some accesses, one after the other. -/
def run (m : ReferenceLog) : List LogAccess → List (Option LogReply) × ReferenceLog
  | [] => ([], m)
  | a :: rest =>
      let (reply, m) := m.access a
      let (replies, m) := m.run rest
      (reply :: replies, m)

/-- What a log amounts to, before and after: no entry is lost, none gets another envelope, and
markers stay set. -/
def GrowsInto (m m' : ReferenceLog) : Prop :=
  ∀ id e published, m.entry id = some (e, published) →
    ∃ published', m'.entry id = some (e, published') ∧ (published = true → published' = true)

theorem growsInto_refl (m : ReferenceLog) : m.GrowsInto m :=
  fun _ _ published h => ⟨published, h, id⟩

theorem GrowsInto.trans {m m' m'' : ReferenceLog} (h : m.GrowsInto m') (h' : m'.GrowsInto m'') :
    m.GrowsInto m'' := by
  intro id e published hentry
  obtain ⟨published', hentry', hkept⟩ := h id e published hentry
  obtain ⟨published'', hentry'', hkept'⟩ := h' id e published' hentry'
  exact ⟨published'', hentry'', hkept' ∘ hkept⟩

theorem growsInto_answer (m : ReferenceLog) (request : LogRequest) :
    m.GrowsInto (m.answer request).2 := by
  cases request with
  | create e =>
      rw [answer]
      cases hentry : m.entry e.id with
      | some x => exact m.growsInto_refl
      | none =>
          intro id e' published h
          have hid : id ≠ e.id := by
            rintro rfl
            rw [hentry] at h
            simp at h
          exact ⟨published, (if_neg hid).trans h, fun hpublished => hpublished⟩
  | markPublished id =>
      rw [answer]
      cases hentry : m.entry id with
      | none => exact m.growsInto_refl
      | some x =>
          intro other e published h
          by_cases hother : other = id
          · subst hother
            obtain rfl : x = (e, published) := Option.some.inj (hentry.symm.trans h)
            exact ⟨true, if_pos rfl, fun _ => rfl⟩
          · exact ⟨published, (if_neg hother).trans h, fun hpublished => hpublished⟩
  | _ => exact m.growsInto_refl

theorem growsInto_access (m : ReferenceLog) (a : LogAccess) : m.GrowsInto (m.access a).2 := by
  cases a with
  | call i request =>
      rw [access]
      split
      · exact m.growsInto_answer request
      · exact m.growsInto_refl
  | _ => exact m.growsInto_refl

theorem growsInto_run (m : ReferenceLog) (accesses : List LogAccess) :
    m.GrowsInto (m.run accesses).2 := by
  induction accesses generalizing m with
  | nil => exact m.growsInto_refl
  | cons a rest ih => exact (m.growsInto_access a).trans (ih _)

theorem run_append (m : ReferenceLog) (first rest : List LogAccess) :
    (m.run (first ++ rest)).2 = ((m.run first).2.run rest).2 := by
  induction first generalizing m with
  | nil => rfl
  | cons a first ih => exact ih _

/-- Whether a reply is that of a recording that succeeded. -/
def recorded : Option LogReply → Bool
  | some (.created (.ok _)) => true
  | _ => false

theorem recordings_access (m : ReferenceLog) (a : LogAccess) :
    (m.access a).2.recordings = m.recordings + if recorded (m.access a).1 then 1 else 0 := by
  cases a with
  | call i request =>
      rw [access]
      split
      · cases request with
        | create e => cases h : m.entry e.id <;> simp [answer, h, recorded]
        | markPublished id => cases h : m.entry id <;> simp [answer, h, recorded, set]
        | _ => rfl
      · rfl
  | _ => rfl

theorem recordings_run (m : ReferenceLog) (accesses : List LogAccess) :
    (m.run accesses).2.recordings = m.recordings + (m.run accesses).1.countP recorded := by
  induction accesses generalizing m with
  | nil => rfl
  | cons a rest ih =>
      change ((m.access a).2.run rest).2.recordings =
        m.recordings + ((m.access a).1 :: ((m.access a).2.run rest).1).countP recorded
      rw [ih, recordings_access, List.countP_cons]
      omega

end ReferenceLog

/-- The row that an entry stands for. -/
def ReferenceLog.row (x : Envelope × Bool) : LogRow :=
  { LogRow.ofEnvelope x.1 with published := x.2 }

/-- A row has the attributes of the envelope that it keeps. -/
structure LogRow.Keeps (row : LogRow) (e : Envelope) : Prop where
  envelope : Envelope.ofWire row.envelope = .ok e
  id : row.id = e.id
  type : row.type = e.type
  source : row.source = e.source
  subject : row.subject = e.subject
  time : row.time = e.time.map Time.Instant.offsetText

/-- A log and what it amounts to. -/
structure EventLog.Represents (log : EventLog) (m : ReferenceLog) : Prop where
  rows : ∀ id, log.find? id = (m.entry id).map ReferenceLog.row
  found : ∀ row ∈ log.rows, log.find? row.id = some row
  read : ∀ id x, m.entry id = some x → Envelope.ofWire x.1.wire = .ok x.1
  recordings : log.count = m.recordings

namespace EventLog

variable {log log' : EventLog} {m : ReferenceLog}

theorem represents_opened : empty.Represents .opened where
  rows _ := rfl
  found row hrow := by simp [empty] at hrow
  read id x hx := by simp [ReferenceLog.opened] at hx
  recordings := rfl

theorem Represents.withHandles (h : log.Represents m) (n : Nat) :
    log.Represents { m with handles := n } :=
  ⟨h.rows, h.found, h.read, h.recordings⟩

theorem Represents.create (h : log.Represents m) {e : Envelope} (hcreate : log.create e = .ok log')
    (hread : Envelope.ofWire e.wire = .ok e) :
    log'.Represents { m.set e.id (e, false) with recordings := m.recordings + 1 } := by
  obtain ⟨hnew, heq⟩ := create_eq_ok_iff.mp hcreate
  refine ⟨?_, ?_, ?_, ?_⟩
  · intro id
    rw [find?_create hcreate]
    by_cases hid : id = e.id
    · simp [ReferenceLog.set, ReferenceLog.row, hid, LogRow.ofEnvelope]
    · simp [ReferenceLog.set, hid, h.rows id]
  · intro row hrow
    rw [heq, List.mem_append, List.mem_singleton] at hrow
    rw [find?_create hcreate]
    rcases hrow with hrow | rfl
    · have hfound := h.found row hrow
      have hid : row.id ≠ e.id := by
        intro hid
        rw [hid, hnew] at hfound
        simp at hfound
      rw [if_neg hid, hfound]
    · exact if_pos rfl
  · intro id x hx
    by_cases hid : id = e.id
    · obtain rfl : (e, false) = x := by simpa [ReferenceLog.set, hid] using hx
      exact hread
    · exact h.read id x (by simpa [ReferenceLog.set, hid] using hx)
  · rw [heq, count, List.length_append, ← h.recordings]
    rfl

theorem Represents.markPublished (h : log.Represents m) {id : String}
    (hmark : log.markPublished id = .ok log') {x : Envelope × Bool} (hx : m.entry id = some x) :
    log'.Represents (m.set id (x.1, true)) := by
  obtain ⟨-, heq⟩ := markPublished_eq_ok_iff.mp hmark
  refine ⟨?_, ?_, ?_, ?_⟩
  · intro other
    rw [find?_markPublished hmark, h.rows other]
    by_cases hid : other = id
    · simp [ReferenceLog.set, ReferenceLog.row, hid, hx]
    · simp [ReferenceLog.set, hid]
  · intro row hrow
    rw [heq] at hrow
    obtain ⟨before, hbefore, rfl⟩ := List.mem_map.mp hrow
    have hfound := h.found before hbefore
    rw [find?_markPublished hmark]
    by_cases hid : before.id = id
    · rw [hid] at hfound
      simp [hid, hfound]
    · simp [hid, hfound]
  · intro other y hy
    by_cases hid : other = id
    · obtain rfl : (x.1, true) = y := by simpa [ReferenceLog.set, hid] using hy
      exact h.read id x hx
    · exact h.read other y (by simpa [ReferenceLog.set, hid] using hy)
  · rw [heq, count, List.length_map]
    exact h.recordings

theorem Represents.answer (h : log.Represents m) (request : LogRequest)
    (hread : ∀ e, request = .create e → Envelope.ofWire e.wire = .ok e) :
    (log.answer request).1 = (m.answer request).1 ∧
      (log.answer request).2.Represents (m.answer request).2 := by
  cases request with
  | create e =>
      have hrow := h.rows e.id
      rw [EventLog.answer, ReferenceLog.answer]
      cases hentry : m.entry e.id with
      | none =>
          rw [hentry] at hrow
          have hcreate : log.create e = .ok ⟨log.rows ++ [.ofEnvelope e]⟩ :=
            create_eq_ok_iff.mpr ⟨hrow, rfl⟩
          rw [hcreate]
          exact ⟨rfl, h.create hcreate (hread e rfl)⟩
      | some x =>
          rw [hentry] at hrow
          rw [create_eq_error_iff.mpr ⟨by rw [hrow]; rfl, rfl⟩]
          exact ⟨rfl, h⟩
  | load id =>
      refine ⟨?_, h⟩
      rw [EventLog.answer, ReferenceLog.answer, load, h.rows id]
      cases hentry : m.entry id with
      | none => rfl
      | some x =>
          change LogReply.loaded ((Envelope.ofWire x.1.wire).map some) = _
          rw [h.read id x hentry]
          rfl
  | markPublished id =>
      have hrow := h.rows id
      rw [EventLog.answer, ReferenceLog.answer]
      cases hentry : m.entry id with
      | none =>
          rw [hentry] at hrow
          rw [markPublished_eq_error_iff.mpr ⟨hrow, rfl⟩]
          exact ⟨rfl, h⟩
      | some x =>
          rw [hentry] at hrow
          have hmark : log.markPublished id = .ok _ :=
            markPublished_eq_ok_iff.mpr ⟨by rw [hrow]; rfl, rfl⟩
          rw [hmark]
          exact ⟨rfl, h.markPublished hmark hentry⟩
  | isPublished id =>
      refine ⟨?_, h⟩
      rw [EventLog.answer, ReferenceLog.answer, isPublished, h.rows id]
      cases m.entry id <;> rfl
  | count =>
      refine ⟨?_, h⟩
      rw [EventLog.answer, ReferenceLog.answer, h.recordings]

theorem Represents.keeps (h : log.Represents m) {row : LogRow} (hrow : row ∈ log.rows) :
    ∃ e, row.Keeps e := by
  have hfound := h.found row hrow
  rw [h.rows] at hfound
  obtain ⟨x, hx, rfl⟩ := Option.map_eq_some_iff.mp hfound
  exact ⟨x.1, h.read _ x hx, rfl, rfl, rfl, rfl, rfl⟩

end EventLog

/-- A directory with one event log, handles of that log only, and what they amount to. -/
structure SharedLog.Represents (p : List String) (s : SharedLog) (m : ReferenceLog) : Prop where
  handles : s.handles = List.replicate m.handles (.stored p)
  log : ∃ l : EventLog, s.directory.HoldsLog p l ∧ l.Represents m

namespace SharedLog

variable {p : List String} {s : SharedLog} {m : ReferenceLog}

/-- What is asked of an access: a file that is opened is that of the log, and an envelope that is to
be recorded can be read from its wire form. -/
def Admits (p : List String) : LogAccess → Prop
  | .openFile path => Directory.NamesLog path p
  | .call _ (.create e) => Envelope.ofWire e.wire = .ok e
  | _ => True

theorem Represents.access (h : s.Represents p m) {a : LogAccess} (ha : Admits p a) :
    (s.access a).1 = (m.access a).1 ∧ (s.access a).2.Represents p (m.access a).2 := by
  obtain ⟨l, hholds, hlog⟩ := h.log
  have hhandle : ∀ i, s.handles[i]? = if i < m.handles then some (.stored p) else none := by
    intro i
    rw [h.handles, List.getElem?_replicate]
  cases a with
  | openFile path =>
      rw [SharedLog.access, hholds.openLog ha]
      refine ⟨rfl, ?_, l, hholds, hlog.withHandles _⟩
      rw [ReferenceLog.access, List.replicate_succ', ← h.handles]
  | clone i =>
      refine ⟨rfl, ?_, l, hholds, hlog.withHandles _⟩
      rw [SharedLog.access, ReferenceLog.access, hhandle, h.handles]
      split
      · exact List.replicate_succ'.symm
      · exact List.append_nil _
  | close i =>
      refine ⟨rfl, ?_, l, hholds, hlog.withHandles _⟩
      rw [SharedLog.access, ReferenceLog.access, h.handles, List.eraseIdx_replicate]
      split <;> rfl
  | call i request =>
      rw [SharedLog.access, ReferenceLog.access, hhandle]
      by_cases hi : i < m.handles
      · have hread : ∀ e, request = .create e → Envelope.ofWire e.wire = .ok e := by
          rintro e rfl
          exact ha
        obtain ⟨hreply, hafter⟩ := hlog.answer request hread
        rw [if_pos hi, if_pos hi]
        dsimp only [SharedLog.call]
        rw [hholds.log_eq]
        refine ⟨congrArg some hreply, ?_, _,
          Directory.holdsLog_put hholds.root hholds.directories _, hafter⟩
        rw [ReferenceLog.handles_answer]
        exact h.handles
      · rw [if_neg hi, if_neg hi]
        exact ⟨rfl, h⟩

theorem Represents.run (h : s.Represents p m) {accesses : List LogAccess}
    (hadmits : ∀ a ∈ accesses, Admits p a) :
    (s.run accesses).1 = (m.run accesses).1 ∧
      (s.run accesses).2.Represents p (m.run accesses).2 := by
  induction accesses generalizing s m with
  | nil => exact ⟨rfl, h⟩
  | cons a rest ih =>
      obtain ⟨hfirst, hrest⟩ := List.forall_mem_cons.mp hadmits
      obtain ⟨hreply, hnext⟩ := h.access hfirst
      obtain ⟨hreplies, hlast⟩ := ih hnext hrest
      refine ⟨?_, hlast⟩
      change (s.access a).1 :: ((s.access a).2.run rest).1 =
        (m.access a).1 :: ((m.access a).2.run rest).1
      rw [hreply, hreplies]

/-- A shared log that does in the course of some accesses what the reference does. -/
structure Refines (p : List String) (s : SharedLog) (m : ReferenceLog)
    (accesses : List LogAccess) : Prop where
  replies : (s.run accesses).1 = (m.run accesses).1
  represents : (s.run accesses).2.Represents p (m.run accesses).2
  /-- What was recorded before the last accesses is there after them, with the same envelope. -/
  kept : ∀ first rest, accesses = first ++ rest →
    (m.run first).2.GrowsInto (m.run accesses).2
  /-- The number of recordings grows with each reply that reports one. -/
  recordings : (m.run accesses).2.recordings =
    m.recordings + (s.run accesses).1.countP ReferenceLog.recorded
  keeps : ∀ row ∈ ((s.run accesses).2.directory.log p).rows, ∃ e, row.Keeps e

/-- The file of an event log that is opened, empty at first, and then called, opened again, cloned
and closed through any handles, answers as a map does. -/
theorem refines_reference {d d' : Directory} {path : String} {p : List String}
    (hopen : d.openLog path = (.ok (.stored p), d')) (hempty : d'.log p = .empty)
    (accesses : List LogAccess) (hadmits : ∀ a ∈ accesses, Admits p a) :
    Refines p ⟨d', [.stored p]⟩ .opened accesses := by
  obtain ⟨-, hholds⟩ := Directory.holdsLog_of_openLog hopen
  rw [hempty] at hholds
  have hstart : Represents p ⟨d', [.stored p]⟩ .opened :=
    ⟨rfl, .empty, hholds, EventLog.represents_opened⟩
  obtain ⟨hreplies, hend⟩ := hstart.run hadmits
  refine ⟨hreplies, hend, ?_, ?_, ?_⟩
  · rintro first rest rfl
    rw [ReferenceLog.run_append]
    exact ReferenceLog.growsInto_run _ rest
  · rw [hreplies, ReferenceLog.recordings_run]
  · intro row hrow
    obtain ⟨l, hlast, hlog⟩ := hend.log
    rw [hlast.log_eq] at hrow
    exact hlog.keeps hrow

theorem refines_reference_reopened :
    let e := Envelope.create "event-1" "message.phone.sent" "/v1/messages" none
    let p := ["data", "events.db"]
    let d' := (Directory.openLog ⟨[]⟩ "data/events.db").2
    let accesses : List LogAccess :=
      [.call 0 (.create e), .openFile "./data//events.db", .clone 1, .call 1 (.create e),
        .call 1 (.markPublished "event-1"), .close 0, .call 1 (.isPublished "event-1"),
        .call 1 (.load "event-1"), .call 0 (.markPublished "event-2"), .call 0 .count]
    Directory.openLog ⟨[]⟩ "data/events.db" = (.ok (.stored p), d') ∧ d'.log p = .empty ∧
      (∀ a ∈ accesses, Admits p a) ∧ Refines p ⟨d', [.stored p]⟩ .opened accesses := by
  intro e p d' accesses
  have hopen : Directory.openLog ⟨[]⟩ "data/events.db" = (.ok (.stored p), d') :=
    Prod.ext (by decide +kernel) rfl
  have hempty : d'.log p = .empty := by decide +kernel
  have hread : Envelope.ofWire e.wire = .ok e := (Envelope.isReceived_create _ _ _).ofWire_wire
  have hnames : Directory.NamesLog "./data//events.db" p :=
    ⟨by decide +kernel, by decide +kernel⟩
  have hadmits : ∀ a ∈ accesses, Admits p a := by
    simp only [accesses, List.forall_mem_cons]
    exact ⟨hread, hnames, trivial, hread, trivial, trivial, trivial, trivial, trivial, trivial,
      by simp⟩
  exact ⟨hopen, hempty, hadmits, refines_reference hopen hempty accesses hadmits⟩

end SharedLog

end SmsGateway
