import SmsGateway.Proofs.Event.WireForm

namespace SmsGateway.Envelope

open SmsGateway.Json

theorem mem_of_namedFields {fields : List (Option String × Document)}
    {named : List (String × Document)} (h : namedFields fields = some named)
    {x : String × Document} (hx : x ∈ named) : (some x.1, x.2) ∈ fields := by
  induction fields generalizing named with
  | nil =>
      obtain rfl := Option.some.inj h
      simp at hx
  | cons f rest ih =>
      simp only [namedFields, bind, pure, Option.bind_eq_some_iff, Option.some.injEq] at h
      obtain ⟨name, hname, more, hmore, rfl⟩ := h
      rcases List.mem_cons.mp hx with rfl | hx
      · rw [← hname]
        exact List.mem_cons_self
      · exact List.mem_cons_of_mem f (ih hmore hx)

theorem exists_of_fieldValues {fields : List (String × Document)} {es : List (String × Json)}
    (h : fieldValues fields = some es) :
    ∀ x ∈ es, ∃ f ∈ fields, f.1 = x.1 ∧ f.2.value? = some x.2 := by
  rw [fieldValues] at h
  induction fields generalizing es with
  | nil =>
      obtain rfl := Option.some.inj h
      simp
  | cons f rest ih =>
      simp only [List.mapM_cons, bind, pure, Option.bind_eq_some_iff, Option.some.injEq,
        Option.map_eq_some_iff] at h
      obtain ⟨x, ⟨v, hv, rfl⟩, more, hmore, rfl⟩ := h
      refine List.forall_mem_cons.mpr ⟨⟨f, List.mem_cons_self, rfl, hv⟩, ?_⟩
      intro y hy
      obtain ⟨f', hf', hname, hvalue⟩ := ih hmore y hy
      exact ⟨f', List.mem_cons_of_mem f hf', hname, hvalue⟩

theorem eq_null_of_value? {d : Document} (h : d.value? = some .null) : d = .null := by
  cases d <;> simp_all [Document.value?]

/-- Where the parts of an envelope come from that an object was read as. -/
structure ComesFrom (e : Envelope) (fields : List (Option String × Document)) : Prop where
  data : ∀ v ∈ e.data, v ≠ .null ∧ ∃ f ∈ fields, f.2.value? = some v
  extensions : ∃ es, e.extensions = NameTable.ofEntries es ∧
    ∀ x ∈ es, x.1 ∉ coreNames ∧ ∃ f ∈ fields, f.2.value? = some x.2
  time : ∀ t ∈ e.time, t.IsReadable

theorem comesFrom_of_ofDocument? {d : Document} {e : Envelope} (h : ofDocument? d = some e) :
    ∃ fields, d = .obj fields ∧ e.ComesFrom fields := by
  unfold ofDocument? at h
  split at h
  · next fields =>
      obtain ⟨r, hr, h⟩ := Option.bind_eq_some_iff.mp h
      obtain ⟨named, hnamed, h⟩ := Option.bind_eq_some_iff.mp h
      obtain ⟨_, -, h⟩ := Option.bind_eq_some_iff.mp h
      obtain ⟨_, -, h⟩ := Option.bind_eq_some_iff.mp h
      obtain ⟨_, -, h⟩ := Option.bind_eq_some_iff.mp h
      obtain ⟨_, -, h⟩ := Option.bind_eq_some_iff.mp h
      obtain ⟨time, htime, h⟩ := Option.bind_eq_some_iff.mp h
      obtain ⟨_, -, h⟩ := Option.bind_eq_some_iff.mp h
      obtain ⟨_, -, h⟩ := Option.bind_eq_some_iff.mp h
      obtain ⟨_, -, h⟩ := Option.bind_eq_some_iff.mp h
      obtain ⟨data, hdata, h⟩ := Option.bind_eq_some_iff.mp h
      obtain ⟨_, -, h⟩ := Option.bind_eq_some_iff.mp h
      obtain ⟨es, hes, h⟩ := Option.bind_eq_some_iff.mp h
      obtain rfl := Option.some.inj h
      refine ⟨fields, rfl, ?_, ⟨es, rfl, ?_⟩, ?_⟩
      · rintro v rfl
        obtain ⟨d, hne, hlookup, hvalue⟩ := Record.lookup_of_optional hdata
        refine ⟨?_, _, mem_of_mem_declaredFields hr (mem_of_lookup hlookup), hvalue⟩
        rintro rfl
        exact hne (eq_null_of_value? hvalue)
      · intro x hx
        obtain ⟨f, hf, hname, hvalue⟩ := exists_of_fieldValues hes x hx
        obtain ⟨hmem, hother⟩ := List.mem_filter.mp hf
        refine ⟨?_, _, mem_of_namedFields hnamed hmem, hvalue⟩
        rw [← hname]
        simpa using hother
      · rintro t rfl
        obtain ⟨d, -, -, hinstant⟩ := Record.lookup_of_optional htime
        obtain ⟨s, -, hread⟩ := Option.bind_eq_some_iff.mp hinstant
        exact ⟨s, hread⟩
  · simp at h

theorem ComesFrom.of_mem_values {e : Envelope} {fields : List (Option String × Document)}
    (h : e.ComesFrom fields) {v : Json} (hv : v ∈ e.values) :
    ∃ f ∈ fields, f.2.value? = some v := by
  rcases List.mem_append.mp hv with hv | hv
  · exact (h.data v (Option.mem_toList.mp hv)).2
  · obtain ⟨x, hx, rfl⟩ := List.mem_map.mp hv
    obtain ⟨es, heq, hes⟩ := h.extensions
    rw [heq] at hx
    exact (hes x (NameTable.mem_of_mem_ofEntries hx)).2

theorem exists_of_ofBytes {bs : List UInt8} {e : Envelope} (h : ofBytes bs = .ok e) :
    ∃ s d, Text.ofBytes? bs = some s ∧ Document.parse maxDepth s.toList = some d ∧
      ofDocument? d = some e := by
  unfold ofBytes at h
  split at h
  · next s hs =>
      unfold ofWire at h
      split at h
      · next e' hread =>
          obtain rfl := Except.ok.inj h
          obtain ⟨d, hparse, hmeans⟩ := Option.bind_eq_some_iff.mp hread
          exact ⟨s, d, hs, hparse, hmeans⟩
      · simp at h
  · simp at h

/-- Every number in a text that some bytes hold denotes an integer that fits 64 bits. -/
def HoldIntegers (bs : List UInt8) : Prop :=
  ∀ s d, Text.ofBytes? bs = some s → Document.parse maxDepth s.toList = some d → d.Integral

theorem isProper_of_ofBytes {bs : List UInt8} {e : Envelope} (h : ofBytes bs = .ok e) :
    e.IsProper := by
  obtain ⟨s, d, -, hparse, hmeans⟩ := exists_of_ofBytes h
  obtain ⟨fields, rfl, hfrom⟩ := comesFrom_of_ofDocument? hmeans
  refine ⟨?_, ?_⟩
  · obtain ⟨es, heq, -⟩ := hfrom.extensions
    rw [heq]
    exact NameTable.ascending_ofEntries es
  · intro v hv
    obtain ⟨f, hf, hvalue⟩ := hfrom.of_mem_values hv
    cases fits_of_parse hparse with
    | obj hfields => exact ((hfields f hf).of_value? hvalue).1

theorem isReadable_of_ofBytes {bs : List UInt8} {e : Envelope} (h : ofBytes bs = .ok e) :
    e.IsReadable := by
  obtain ⟨s, d, -, hparse, hmeans⟩ := exists_of_ofBytes h
  obtain ⟨fields, rfl, hfrom⟩ := comesFrom_of_ofDocument? hmeans
  refine ⟨?_, ?_, ?_, hfrom.time⟩
  · intro x hx
    obtain ⟨es, heq, hes⟩ := hfrom.extensions
    rw [heq] at hx
    exact (hes x (NameTable.mem_of_mem_ofEntries hx)).1
  · intro hdata
    exact (hfrom.data .null hdata).1 rfl
  · intro v hv
    obtain ⟨f, hf, hvalue⟩ := hfrom.of_mem_values hv
    have hfits : Document.Fits (maxValueDepth + 1) (.obj fields) := fits_of_parse hparse
    cases hfits with
    | obj hfields => exact ((hfields f hf).of_value? hvalue).2

theorem isIntegral_of_ofBytes {bs : List UInt8} {e : Envelope} (h : ofBytes bs = .ok e)
    (hintegers : HoldIntegers bs) : e.IsIntegral := by
  obtain ⟨s, d, hs, hparse, hmeans⟩ := exists_of_ofBytes h
  obtain ⟨fields, rfl, hfrom⟩ := comesFrom_of_ofDocument? hmeans
  intro v hv
  obtain ⟨f, hf, hvalue⟩ := hfrom.of_mem_values hv
  cases hintegers s _ hs hparse with
  | obj hfields => exact (hfields f hf).of_value? hvalue

theorem holdIntegers_wireBytes {e : Envelope} (hreadable : e.IsReadable)
    (hintegral : e.IsIntegral) : HoldIntegers e.wireBytes := by
  intro s d hs hparse
  rw [wireBytes, Text.ofBytes?_bytes] at hs
  obtain rfl := Option.some.inj hs
  rw [wire, String.toList_ofList, parse_wireChars hreadable.depth hintegral] at hparse
  obtain rfl := Option.some.inj hparse
  exact (integral_written hintegral).document

/-- An envelope that was read from bytes and holds no other numbers than integers. -/
structure IsReceived (e : Envelope) : Prop where
  read : ∃ bs, ofBytes bs = .ok e
  integral : e.IsIntegral

theorem IsReceived.ofWire_wire {e : Envelope} (h : e.IsReceived) : ofWire e.wire = .ok e := by
  obtain ⟨bs, hread⟩ := h.read
  exact Envelope.ofWire_wire (isProper_of_ofBytes hread) (isReadable_of_ofBytes hread) h.integral

theorem isIntegral_create (id type source : String) :
    (create id type source none).IsIntegral := by
  simp [IsIntegral, create, values]

theorem ofBytes_wireBytes_create (id type source : String) :
    ofBytes (create id type source none).wireBytes = .ok (create id type source none) := by
  have hreadable : (create id type source none).IsReadable := by
    constructor <;> simp [create, values]
  exact ofBytes_wireBytes (isProper_create id type source none) hreadable
    (isIntegral_create id type source)

theorem isReceived_create (id type source : String) :
    (create id type source none).IsReceived :=
  ⟨⟨_, ofBytes_wireBytes_create id type source⟩, isIntegral_create id type source⟩

/-- The wire form loses nothing, as far as numbers are integers: what is written is read back, and
what is read, from any bytes, can be written and read again without change. -/
theorem wire_lossless :
    (∀ e : Envelope, e.IsProper → e.IsReadable → e.IsIntegral → ofBytes e.wireBytes = .ok e) ∧
      ∀ bs e, ofBytes bs = .ok e →
        e.IsProper ∧ e.IsReadable ∧ (HoldIntegers bs → e.IsIntegral) ∧
          (e.IsIntegral → ∃ e', ofBytes e.wireBytes = .ok e' ∧ e' = e ∧
            e'.wireBytes = e.wireBytes) := by
  refine ⟨fun e => ofBytes_wireBytes, ?_⟩
  intro bs e h
  have hproper := isProper_of_ofBytes h
  have hreadable := isReadable_of_ofBytes h
  refine ⟨hproper, hreadable, isIntegral_of_ofBytes h, ?_⟩
  intro hintegral
  exact ⟨e, ofBytes_wireBytes hproper hreadable hintegral, rfl, rfl⟩

theorem wire_lossless_extremes :
    let t : Time.Instant :=
      ⟨⟨-44, 3, 15, by decide, by decide⟩, 86399, 1500000000, by decide, by decide⟩
    let e := ((create "event-1" "message.phone.sent" "/v1/messages" (some t)).withData
      (.obj [("greatest", .int 18446744073709551615), ("least", .int (-9223372036854775808)),
        ("text", .str "\"\\\n\u0000é")])).withExtension "flags" (.arr [.null, .bool true, .obj []])
    e.IsProper ∧ e.IsReadable ∧ e.IsIntegral ∧ HoldIntegers e.wireBytes ∧
      ofBytes e.wireBytes = .ok e ∧
      ∃ e', ofBytes e.wireBytes = .ok e' ∧ e' = e ∧ e'.wireBytes = e.wireBytes := by
  intro t e
  have hproper : e.IsProper := by
    refine ((isProper_create _ _ _ _).withData ?_).withExtension "flags" ?_
    · refine ⟨?_, by simp [CanonicalFields, Canonical, Number.InRange, Json.int]⟩
      simp only [NameTable.Ascending, List.pairwise_cons, List.mem_cons, List.not_mem_nil,
        or_false, forall_eq_or_imp, forall_eq, List.Pairwise.nil, and_true, false_implies,
        implies_true]
      decide
    · simp [Canonical, CanonicalItems, CanonicalFields, NameTable.Ascending]
  have hreadable : e.IsReadable := by
    refine ⟨by decide, by simp [e, withData, withExtension], by decide, ?_⟩
    intro t' ht
    obtain rfl : t = t' := Option.some.inj ht
    exact ⟨t.text, by decide +kernel⟩
  have hintegral : e.IsIntegral := by
    refine List.forall_mem_cons.mpr ⟨.obj ?_, List.forall_mem_singleton.mpr (.arr ?_)⟩
    · simp only [List.forall_mem_cons, List.not_mem_nil, false_implies, implies_true, and_true]
      exact ⟨.int ⟨by decide, by decide⟩, .int ⟨by decide, by decide⟩, .str _⟩
    · simp only [List.forall_mem_cons, List.not_mem_nil, false_implies, implies_true, and_true]
      exact ⟨.null, .bool true, .obj (by simp)⟩
  have hread : ofBytes e.wireBytes = .ok e := wire_lossless.1 e hproper hreadable hintegral
  obtain ⟨-, -, -, hagain⟩ := wire_lossless.2 e.wireBytes e hread
  exact ⟨hproper, hreadable, hintegral, holdIntegers_wireBytes hreadable hintegral, hread,
    hagain hintegral⟩

end SmsGateway.Envelope
