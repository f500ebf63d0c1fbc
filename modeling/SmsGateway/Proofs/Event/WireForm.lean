import SmsGateway.Event.Wire
import SmsGateway.Proofs.Json.Bounds
import SmsGateway.Proofs.Json.Reading
import SmsGateway.Proofs.Json.Records
import SmsGateway.Proofs.Text.Utf8
import SmsGateway.Proofs.Time.RoundTrip

namespace SmsGateway.Envelope

open SmsGateway.Json

/-- The JSON values of an envelope: its data and the values of its extensions. -/
def values (e : Envelope) : List Json :=
  e.data.toList ++ e.extensions.map (·.2)

/-- The extensions are a table, and so is every object in the values of an envelope. -/
structure IsProper (e : Envelope) : Prop where
  ascending : NameTable.Ascending e.extensions
  canonical : ∀ v ∈ e.values, v.Canonical

theorem isProper_create (id type source : String) (time : Option Time.Instant) :
    (create id type source time).IsProper := by
  refine ⟨List.Pairwise.nil, ?_⟩
  simp [values, create]

theorem IsProper.withData {e : Envelope} (h : e.IsProper) {v : Json} (hv : v.Canonical) :
    (e.withData v).IsProper := by
  refine ⟨h.ascending, ?_⟩
  intro w hw
  rcases List.mem_append.mp hw with hw | hw
  · obtain rfl := List.mem_singleton.mp hw
    exact hv
  · exact h.canonical w (List.mem_append_right _ hw)

theorem IsProper.withExtension {e : Envelope} (h : e.IsProper) (name : String) {v : Json}
    (hv : v.Canonical) : (e.withExtension name v).IsProper := by
  refine ⟨NameTable.ascending_insert h.ascending, ?_⟩
  intro w hw
  rcases List.mem_append.mp hw with hw | hw
  · exact h.canonical w (List.mem_append_left _ hw)
  · obtain ⟨x, hx, rfl⟩ := List.mem_map.mp hw
    rcases NameTable.mem_insert hx with rfl | hx
    · exact hv
    · exact h.canonical x.2 (List.mem_append_right _ (List.mem_map.mpr ⟨x, hx, rfl⟩))

/-- How deep the values of an envelope may be nested: one less than a text, of which they are
parts. -/
def maxValueDepth : Nat := 126

/-- No value of an envelope is nested too deep to be a part of a text. -/
def IsShallow (e : Envelope) : Prop :=
  ∀ v ∈ e.values, v.depth ≤ maxValueDepth

/-- What distinguishes envelopes that were read. -/
structure IsReadable (e : Envelope) : Prop where
  names : ∀ x ∈ e.extensions, x.1 ∉ coreNames
  data_ne_null : e.data ≠ some .null
  depth : ∀ v ∈ e.values, v.depth ≤ maxValueDepth
  time : ∀ t ∈ e.time, t.IsReadable

/-- Every number in the values of an envelope is an integer that fits 64 bits. -/
def IsIntegral (e : Envelope) : Prop :=
  ∀ v ∈ e.values, v.Integral

/-- A field that is there only when it is set. -/
def optionalField (name : String) (value : Option Json) : List (String × Json) :=
  value.toList.map fun v => (name, v)

/-- The core attributes as fields of an object. -/
def coreFields (e : Envelope) : List (String × Json) :=
  [("specversion", .str e.specVersion), ("id", .str e.id), ("source", .str e.source),
    ("type", .str e.type)] ++
    optionalField "time" (e.time.map fun t => .str t.text) ++
    optionalField "datacontenttype" (e.dataContentType.map .str) ++
    optionalField "dataschema" (e.dataSchema.map .str) ++
    optionalField "subject" (e.subject.map .str) ++
    optionalField "data" e.data ++
    optionalField "data_base64" (e.dataBase64.map .str)

theorem map_member_optionalField {α : Type} (name : String) (f : α → Json) (value : Option α) :
    (optionalField name (value.map f)).map (fun x => member x.1 x.2.chars) =
      optionalMember name (fun a => (f a).chars) value := by
  cases value <;> rfl

theorem map_member_coreFields (e : Envelope) :
    e.coreFields.map (fun x => member x.1 x.2.chars) = e.coreMembers := by
  have hdata : (optionalField "data" e.data).map (fun x => member x.1 x.2.chars) =
      optionalMember "data" Json.chars e.data := by
    cases e.data <;> rfl
  simp only [coreFields, List.map_append, map_member_optionalField, hdata]
  rfl

theorem wireChars_eq (e : Envelope) :
    e.wireChars = (Json.obj (e.coreFields ++ e.extensions)).chars := by
  rw [chars, fieldChars_eq_map, List.map_append, map_member_coreFields, ← fieldChars_eq_map]
  rfl

theorem lookup_optionalField (name other : String) (value : Option Json) :
    (optionalField name value).lookup other = if other = name then value else none := by
  cases value with
  | none => simp [optionalField]
  | some v =>
      by_cases h : other = name <;> simp [optionalField, h]

theorem map_fst_optionalField (name : String) (value : Option Json) :
    ((optionalField name value).map (·.1)).Sublist [name] := by
  cases value with
  | none => exact List.nil_sublist _
  | some v => exact List.Sublist.refl _

theorem map_fst_coreFields (e : Envelope) : (e.coreFields.map (·.1)).Sublist coreNames := by
  simp only [coreFields, List.map_append]
  exact (((((((List.Sublist.refl ["specversion", "id", "source", "type"]).append
    (map_fst_optionalField "time" _)).append (map_fst_optionalField "datacontenttype" _)).append
    (map_fst_optionalField "dataschema" _)).append (map_fst_optionalField "subject" _)).append
    (map_fst_optionalField "data" _)).append (map_fst_optionalField "data_base64" _))

theorem mem_coreNames_of_mem_coreFields {e : Envelope} {x : String × Json}
    (h : x ∈ e.coreFields) : x.1 ∈ coreNames :=
  (map_fst_coreFields e).subset (List.mem_map.mpr ⟨x, h, rfl⟩)

theorem nodup_coreFields (e : Envelope) : (e.coreFields.map (·.1)).Nodup :=
  (map_fst_coreFields e).nodup (by decide)

theorem namedFields_map (xs : List (String × Document)) :
    namedFields (xs.map fun x => (some x.1, x.2)) = some xs := by
  induction xs with
  | nil => rfl
  | cons x xs ih =>
      rw [List.map_cons, namedFields, ih]
      rfl

theorem fieldValues_map {xs : List (String × Json)} (h : ∀ x ∈ xs, x.2.Canonical) :
    fieldValues (xs.map fun x => (x.1, Document.ofJson x.2)) = some xs := by
  induction xs with
  | nil => rfl
  | cons x xs ih =>
      obtain ⟨hx, hxs⟩ := List.forall_mem_cons.mp h
      have hrest := ih hxs
      rw [fieldValues] at hrest ⊢
      rw [List.map_cons, List.mapM_cons, value?_ofJson hx, hrest]
      rfl

theorem filter_undeclared {core extensions : List (String × Json)}
    (hcore : ∀ x ∈ core, x.1 ∈ coreNames) (hextensions : ∀ x ∈ extensions, x.1 ∉ coreNames) :
    ((core ++ extensions).map fun x => (x.1, Document.ofJson x.2)).filter
        (fun f => f.1 ∉ coreNames) =
      extensions.map fun x => (x.1, Document.ofJson x.2) := by
  rw [List.map_append, List.filter_append, List.filter_eq_nil_iff.mpr, List.nil_append,
    List.filter_eq_self.mpr]
  · intro f hf
    obtain ⟨x, hx, rfl⟩ := List.mem_map.mp hf
    simpa using hextensions x hx
  · intro f hf
    obtain ⟨x, hx, rfl⟩ := List.mem_map.mp hf
    simpa using hcore x hx

/-- The core attributes as they are found in what was written. -/
def writtenRecord (e : Envelope) : Record :=
  e.coreFields.map fun x => (x.1, .ofJson x.2)

theorem required_writtenRecord {e : Envelope} {name s : String}
    (h : e.coreFields.lookup name = some (.str s)) :
    e.writtenRecord.required name Document.text? = some s :=
  Record.required_written h rfl

theorem optional_writtenRecord {α : Type} {e : Envelope} {name : String} {value : Option α}
    {encode : α → Json} {decode : Document → Option α}
    (h : e.coreFields.lookup name = value.map encode)
    (hdecode : ∀ a ∈ value, encode a ≠ .null ∧ decode (.ofJson (encode a)) = some a) :
    e.writtenRecord.optional name decode = some value :=
  Record.optional_written h hdecode

theorem lookup_coreFields (e : Envelope) :
    e.coreFields.lookup "specversion" = some (.str e.specVersion) ∧
      e.coreFields.lookup "id" = some (.str e.id) ∧
      e.coreFields.lookup "source" = some (.str e.source) ∧
      e.coreFields.lookup "type" = some (.str e.type) ∧
      e.coreFields.lookup "time" = e.time.map (fun t => .str t.text) ∧
      e.coreFields.lookup "datacontenttype" = e.dataContentType.map .str ∧
      e.coreFields.lookup "dataschema" = e.dataSchema.map .str ∧
      e.coreFields.lookup "subject" = e.subject.map .str ∧
      e.coreFields.lookup "data" = e.data.map (fun v => v) ∧
      e.coreFields.lookup "data_base64" = e.dataBase64.map .str := by
  simp [coreFields, List.lookup_cons, List.lookup_append, lookup_optionalField]

theorem declaredFields_written {e : Envelope} (hnames : ∀ x ∈ e.extensions, x.1 ∉ coreNames) :
    declaredFields coreNames
      (((e.coreFields ++ e.extensions).map fun x => (x.1, Document.ofJson x.2)).map
        fun x => (some x.1, x.2)) = some e.writtenRecord := by
  rw [List.map_append]
  refine declaredFields_append ?_ ?_ ?_
  · intro f hf
    obtain ⟨x, hx, rfl⟩ := List.mem_map.mp hf
    exact mem_coreNames_of_mem_coreFields hx
  · rw [List.map_map]
    exact nodup_coreFields e
  · intro f hf
    obtain ⟨x, hx, rfl⟩ := List.mem_map.mp hf
    exact hnames x hx

theorem optional_text_written {e : Envelope} {name : String} {value : Option String}
    (h : e.coreFields.lookup name = value.map .str) :
    e.writtenRecord.optional name Document.text? = some value := by
  refine optional_writtenRecord h ?_
  intro s hs
  exact ⟨by simp, rfl⟩

theorem instant?_written {t : Time.Instant} (h : t.IsReadable) :
    Document.instant? (.ofJson (.str t.text)) = some t := by
  rw [Document.ofJson, Document.instant?, Document.text?, Option.bind_some, Time.ofText?_text h]

/-- An envelope as it is read where it was written: null stands for no data. -/
def withoutNull (e : Envelope) : Envelope :=
  { e with
    data := match e.data with
      | some .null => none
      | data => data }

theorem withoutNull_eq_iff {e : Envelope} : e.withoutNull = e ↔ e.data ≠ some .null := by
  constructor
  · rintro heq hnull
    have hdata : e.withoutNull.data = none := by rw [withoutNull, hnull]
    rw [heq, hnull] at hdata
    simp at hdata
  · intro hne
    unfold withoutNull
    split
    · contradiction
    · rfl

theorem optional_data_written {e : Envelope} (hproper : e.IsProper) :
    e.writtenRecord.optional "data" Document.value? = some e.withoutNull.data := by
  obtain ⟨-, -, -, -, -, -, -, -, hdata, -⟩ := lookup_coreFields e
  rw [Record.optional, writtenRecord, lookup_map, hdata, Option.map_id', withoutNull]
  cases hvalue : e.data with
  | none => rfl
  | some v =>
      have hread : (Document.ofJson v).value? = some v := by
        apply value?_ofJson
        apply hproper.canonical
        exact List.mem_append_left _ (Option.mem_toList.mpr hvalue)
      cases v with
      | null => rfl
      | _ => exact congrArg (Option.map some) hread

theorem ofDocument?_written {e : Envelope} (hproper : e.IsProper)
    (hnames : ∀ x ∈ e.extensions, x.1 ∉ coreNames) (htimes : ∀ t ∈ e.time, t.IsReadable) :
    ofDocument? (.ofJson (.obj (e.coreFields ++ e.extensions))) = some e.withoutNull := by
  have hfields : Document.ofJson (.obj (e.coreFields ++ e.extensions)) =
      .obj (((e.coreFields ++ e.extensions).map fun x => (x.1, Document.ofJson x.2)).map
        fun x => (some x.1, x.2)) := by
    rw [Document.ofJson, ofFields_eq_map, List.map_map]
    rfl
  obtain ⟨hversion, hid, hsource, htype, htime, hcontent, hschema, hsubject, -, hbase⟩ :=
    lookup_coreFields e
  have hreadTime : e.writtenRecord.optional "time" Document.instant? = some e.time := by
    refine optional_writtenRecord htime ?_
    intro t ht
    exact ⟨by simp, instant?_written (htimes t ht)⟩
  have hreadExtensions : fieldValues
      (((e.coreFields ++ e.extensions).map fun x => (x.1, Document.ofJson x.2)).filter
        fun f => f.1 ∉ coreNames) = some e.extensions := by
    rw [filter_undeclared (fun x => mem_coreNames_of_mem_coreFields) hnames]
    apply fieldValues_map
    intro x hx
    exact hproper.canonical x.2 (List.mem_append_right _ (List.mem_map.mpr ⟨x, hx, rfl⟩))
  rw [hfields, ofDocument?, declaredFields_written hnames, namedFields_map]
  simp only [bind, pure, Option.bind_some, required_writtenRecord hversion,
    required_writtenRecord hid, required_writtenRecord hsource, required_writtenRecord htype,
    hreadTime, optional_text_written hcontent, optional_text_written hschema,
    optional_text_written hsubject, optional_data_written hproper, optional_text_written hbase,
    hreadExtensions, NameTable.ofEntries_eq_self hproper.ascending]
  rfl

theorem snd_of_mem_coreFields {e : Envelope} {x : String × Json} (h : x ∈ e.coreFields) :
    (∃ s, x.2 = .str s) ∨ x.2 ∈ e.values := by
  simp only [coreFields, optionalField, List.mem_append, List.mem_cons, List.not_mem_nil, or_false,
    List.mem_map, Option.mem_toList, Option.map_eq_some_iff] at h
  rcases h with ((((((rfl | rfl | rfl | rfl) | h) | h) | h) | h) | h) | h
  · exact .inl ⟨_, rfl⟩
  · exact .inl ⟨_, rfl⟩
  · exact .inl ⟨_, rfl⟩
  · exact .inl ⟨_, rfl⟩
  · obtain ⟨_, ⟨t, -, rfl⟩, rfl⟩ := h
    exact .inl ⟨_, rfl⟩
  · obtain ⟨_, ⟨s, -, rfl⟩, rfl⟩ := h
    exact .inl ⟨_, rfl⟩
  · obtain ⟨_, ⟨s, -, rfl⟩, rfl⟩ := h
    exact .inl ⟨_, rfl⟩
  · obtain ⟨_, ⟨s, -, rfl⟩, rfl⟩ := h
    exact .inl ⟨_, rfl⟩
  · obtain ⟨v, hv, rfl⟩ := h
    exact .inr (List.mem_append_left _ (Option.mem_toList.mpr hv))
  · obtain ⟨_, ⟨s, -, rfl⟩, rfl⟩ := h
    exact .inl ⟨_, rfl⟩

theorem forall_written {e : Envelope} {P : Json → Prop} (hstr : ∀ s, P (.str s))
    (hvalues : ∀ v ∈ e.values, P v) : ∀ x ∈ e.coreFields ++ e.extensions, P x.2 := by
  intro x hx
  rcases List.mem_append.mp hx with hx | hx
  · rcases snd_of_mem_coreFields hx with ⟨s, hs⟩ | hx
    · exact hs ▸ hstr s
    · exact hvalues x.2 hx
  · exact hvalues x.2 (List.mem_append_right _ (List.mem_map.mpr ⟨x, hx, rfl⟩))

theorem integral_written {e : Envelope} (h : e.IsIntegral) :
    (Json.obj (e.coreFields ++ e.extensions)).Integral :=
  .obj (forall_written Integral.str h)

theorem mem_written_of_mem_values {e : Envelope} {v : Json} (hv : v ∈ e.values) :
    ∃ x ∈ e.coreFields ++ e.extensions, x.2 = v := by
  rcases List.mem_append.mp hv with hv | hv
  · refine ⟨("data", v), List.mem_append_left _ ?_, rfl⟩
    apply mem_of_lookup
    obtain ⟨-, -, -, -, -, -, -, -, hdata, -⟩ := lookup_coreFields e
    rw [hdata, Option.mem_toList.mp hv]
    rfl
  · obtain ⟨x, hx, rfl⟩ := List.mem_map.mp hv
    exact ⟨x, List.mem_append_right _ hx, rfl⟩

theorem depth_written_le_iff {e : Envelope} :
    (Json.obj (e.coreFields ++ e.extensions)).depth ≤ maxDepth ↔ e.IsShallow := by
  rw [depth]
  change _ + 1 ≤ maxValueDepth + 1 ↔ _
  rw [Nat.add_le_add_iff_right, fieldsDepth_le_iff]
  constructor
  · intro h v hv
    obtain ⟨x, hx, rfl⟩ := mem_written_of_mem_values hv
    exact h x hx
  · intro h
    exact forall_written (fun s => Nat.zero_le _) h

theorem parse_wireChars {e : Envelope} (hshallow : e.IsShallow) (hintegral : e.IsIntegral) :
    Document.parse maxDepth e.wireChars = some (.ofJson (.obj (e.coreFields ++ e.extensions))) := by
  rw [wireChars_eq]
  exact parse_chars (integral_written hintegral) (depth_written_le_iff.mpr hshallow)

theorem ofWire_wire_of_shallow {e : Envelope} (hproper : e.IsProper) (hintegral : e.IsIntegral)
    (hnames : ∀ x ∈ e.extensions, x.1 ∉ coreNames) (htimes : ∀ t ∈ e.time, t.IsReadable)
    (hshallow : e.IsShallow) : ofWire e.wire = .ok e.withoutNull := by
  simp only [ofWire, wire, String.toList_ofList, ofChars?, parse_wireChars hshallow hintegral,
    Option.bind_some, ofDocument?_written hproper hnames htimes]

theorem ofWire_wire {e : Envelope} (hproper : e.IsProper) (hreadable : e.IsReadable)
    (hintegral : e.IsIntegral) : ofWire e.wire = .ok e := by
  rw [ofWire_wire_of_shallow hproper hintegral hreadable.names hreadable.time hreadable.depth,
    withoutNull_eq_iff.mpr hreadable.data_ne_null]

theorem ofBytes_wireBytes {e : Envelope} (hproper : e.IsProper) (hreadable : e.IsReadable)
    (hintegral : e.IsIntegral) : ofBytes e.wireBytes = .ok e := by
  rw [ofBytes, wireBytes, Text.ofBytes?_bytes]
  exact ofWire_wire hproper hreadable hintegral

end SmsGateway.Envelope
