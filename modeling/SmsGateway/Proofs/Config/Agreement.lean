import SmsGateway.Config.File
import SmsGateway.Proofs.Config.Variables
import SmsGateway.Proofs.Json.Reading
import SmsGateway.Proofs.Json.Records
import SmsGateway.Proofs.Text.Utf8

namespace SmsGateway

open Json (Document Record)

namespace Environment

/-- The sections that variables give fields of. -/
def sectionNames : List String :=
  ["server", "event_log", "queue", "retry_policy"]

/-- Sections with their fields. -/
abbrev Sections := List (String × List (String × Json))

def document (sections : Sections) : Json :=
  .obj (sections.map fun x => (x.1, .obj x.2))

/-- Whether sections hold what the variables are set to and nothing else, each field once. -/
structure IsHeldBy (env : Environment) (sections : Sections) : Prop where
  nodup : (sections.map (·.1)).Nodup
  nodup_fields : ∀ x ∈ sections, (x.2.map (·.1)).Nodup
  holds_iff : ∀ name field j, (∃ fields, (name, fields) ∈ sections ∧ (field, j) ∈ fields) ↔
    ∃ v ∈ Variable.all, v.sectionName = name ∧ v.field = field ∧
      ∃ s, NameTable.find? env v.name = some s ∧ v.Means s j

/-- Whether a JSON text holds what the variables are set to and nothing else. -/
def IsWrittenIn (env : Environment) (text : String) : Prop :=
  ∃ sections, env.IsHeldBy sections ∧
    Document.parse text.toList.length text.toList = some (.ofJson (document sections))

def fieldsOf (sections : Sections) (name : String) : List (String × Json) :=
  (sections.lookup name).getD []

variable {env : Environment} {sections : Sections}

theorem mem_fieldsOf_iff (h : (sections.map (·.1)).Nodup) {name : String} {x : String × Json} :
    x ∈ fieldsOf sections name ↔ ∃ fields, (name, fields) ∈ sections ∧ x ∈ fields := by
  simp only [← Json.lookup_eq_some_iff h, fieldsOf]
  cases sections.lookup name <;> simp

namespace IsHeldBy

theorem nodup_fieldsOf (h : env.IsHeldBy sections) (name : String) :
    ((fieldsOf sections name).map (·.1)).Nodup := by
  rw [fieldsOf]
  cases hlookup : sections.lookup name with
  | none => exact List.nodup_nil
  | some fields => exact h.nodup_fields _ (Json.mem_of_lookup hlookup)

theorem lookup_fieldsOf (h : env.IsHeldBy sections) {v : Variable} (hv : v ∈ Variable.all) :
    (fieldsOf sections v.sectionName).lookup v.field = v.given? env := by
  have hunique : ∀ v ∈ Variable.all, ∀ w ∈ Variable.all, w.sectionName = v.sectionName →
      w.field = v.field → w = v := by decide
  ext j
  rw [Json.lookup_eq_some_iff (h.nodup_fieldsOf _), mem_fieldsOf_iff h.nodup, h.holds_iff,
    Variable.given?_eq_some_iff]
  constructor
  · rintro ⟨w, hw, hsection, hfield, hset⟩
    obtain rfl := hunique v hv w hw hsection hfield
    exact hset
  · intro hset
    exact ⟨v, hv, rfl, rfl, hset⟩

theorem lookup_fieldsOf_eq_none (h : env.IsHeldBy sections) {name field : String}
    (hnone : ∀ v ∈ Variable.all, v.sectionName = name → v.field ≠ field) :
    (fieldsOf sections name).lookup field = none := by
  rw [Option.eq_none_iff_forall_ne_some]
  intro j hj
  rw [Json.lookup_eq_some_iff (h.nodup_fieldsOf _), mem_fieldsOf_iff h.nodup, h.holds_iff] at hj
  obtain ⟨v, hv, hsection, hfield, -⟩ := hj
  exact hnone v hv hsection hfield

theorem exists_record (h : env.IsHeldBy sections) (name : String) (names : List String) :
    ∃ r, (Document.ofJson (.obj (fieldsOf sections name))).partialRecord? names = some r ∧
      (∀ v ∈ Variable.all, v.sectionName = name → v.field ∈ names →
        r.lookup v.field = (v.given? env).map .ofJson) ∧
      ∀ field ∈ names, (∀ v ∈ Variable.all, v.sectionName = name → v.field ≠ field) →
        r.lookup field = none := by
  obtain ⟨r, hr, hlookup⟩ :=
    Document.exists_partialRecord?_written (h.nodup_fieldsOf name) names
  refine ⟨r, hr, ?_, ?_⟩
  · rintro v hv rfl hfield
    rw [hlookup _ hfield, h.lookup_fieldsOf hv]
  · intro field hfield hnone
    rw [hlookup _ hfield, h.lookup_fieldsOf_eq_none hnone, Option.map_none]

end IsHeldBy

section Reading

variable {found : Record} {v : Variable}

theorem setting_text (hbits : v.bits = none)
    (h : found.lookup v.field = (v.given? env).map .ofJson) (standard : String) :
    Reading.setting found v.field standard Document.text? = some (env.textOr v.name standard) := by
  rw [Reading.setting, h, Variable.given?_of_text hbits, textOr]
  cases NameTable.find? env v.name <;> rfl

theorem setting_number {α : Type} {bits : Nat} (hbits : v.bits = some bits)
    (h : found.lookup v.field = (v.given? env).map .ofJson) (ofNat : Nat → α) (standard : Nat) :
    Reading.setting found v.field (ofNat standard) (fun d => (d.nat? bits).map ofNat) =
      some (ofNat ((env.numberIn? v.name bits).getD standard)) := by
  rw [Reading.setting, h, Variable.given?_of_number hbits]
  cases hnumber : env.numberIn? v.name bits with
  | none => rfl
  | some n =>
      obtain ⟨s, -, hs⟩ := Option.bind_eq_some_iff.mp hnumber
      obtain ⟨-, -, -, -, -, hlt⟩ := number?_eq_some_iff.mp hs
      rw [Option.map_some, Option.map_some]
      dsimp only
      rw [Document.nat?_written hlt]
      rfl

theorem setting_of_none {α : Type} {name : String} (h : found.lookup name = none) (standard : α)
    (read : Document → Option α) : Reading.setting found name standard read = some standard := by
  rw [Reading.setting, h]

theorem setting_section {α : Type} {name : String}
    (h : found.lookup name = (sections.lookup name).map fun fields => .ofJson (.obj fields))
    {read : Document → Option α} {standard a : α}
    (hempty : read (.ofJson (.obj [])) = some standard)
    (hread : read (.ofJson (.obj (fieldsOf sections name))) = some a) :
    Reading.setting found name standard read = some a := by
  rw [Reading.setting, h]
  rw [fieldsOf] at hread
  cases hlookup : sections.lookup name with
  | none =>
      rw [hlookup] at hread
      exact hempty.symm.trans hread
  | some fields =>
      rw [hlookup] at hread
      exact hread

theorem server?_fieldsOf (h : env.IsHeldBy sections) (home : String) :
    Json.reading.server? (.ofJson (.obj (fieldsOf sections "server"))) =
      some (env.gathered home).server := by
  obtain ⟨found, hfound, hlookup, -⟩ := h.exists_record "server" ["host", "port"]
  have hhost : Reading.setting found "host" _ Document.text? = _ :=
    setting_text rfl (hlookup .host (by decide) rfl (by decide)) ServerSettings.standard.host
  have hport : Reading.setting found "port" ServerSettings.standard.port _ = _ :=
    setting_number rfl (hlookup .port (by decide) rfl (by decide)) UInt16.ofNat
      ServerSettings.standard.port.toNat
  simp only [Reading.server?, Json.reading, hfound, hhost, hport, bind, Option.bind_some]
  rfl

theorem log?_fieldsOf (h : env.IsHeldBy sections) (home : String) :
    Json.reading.log? home (.ofJson (.obj (fieldsOf sections "event_log"))) =
      some (env.gathered home).log := by
  obtain ⟨found, hfound, hlookup, -⟩ := h.exists_record "event_log" ["path"]
  have hpath : Reading.setting found "path" _ Document.text? = _ :=
    setting_text rfl (hlookup .path (by decide) rfl (by decide)) (LogSettings.standard home).path
  simp only [Reading.log?, Json.reading, hfound, hpath, bind, Option.bind_some]
  rfl

theorem queue?_fieldsOf (h : env.IsHeldBy sections) (home : String) :
    Json.reading.queue? (.ofJson (.obj (fieldsOf sections "queue"))) =
      some (env.gathered home).queue := by
  obtain ⟨found, hfound, hlookup, -⟩ :=
    h.exists_record "queue" ["consumer_endpoint", "user_api_key", "request_timeout_secs"]
  have hendpoint : Reading.setting found "consumer_endpoint" _ Document.text? = _ :=
    setting_text rfl (hlookup .endpoint (by decide) rfl (by decide)) QueueSettings.standard.endpoint
  have hkey : Reading.setting found "user_api_key" _ Document.text? = _ :=
    setting_text rfl (hlookup .key (by decide) rfl (by decide)) QueueSettings.standard.key
  have htimeout : Reading.setting found "request_timeout_secs"
      QueueSettings.standard.requestTimeoutSecs _ = _ :=
    setting_number rfl (hlookup .timeout (by decide) rfl (by decide)) UInt64.ofNat
      QueueSettings.standard.requestTimeoutSecs.toNat
  simp only [Reading.queue?, Json.reading, hfound, hendpoint, hkey, htimeout, bind,
    Option.bind_some]
  rfl

theorem retries?_fieldsOf (h : env.IsHeldBy sections) (home : String) :
    Json.reading.retries? (.ofJson (.obj (fieldsOf sections "retry_policy"))) =
      some (env.gathered home).retries := by
  obtain ⟨found, hfound, hlookup, hnone⟩ := h.exists_record "retry_policy"
    ["max_retries", "initial_delay_ms", "max_delay_ms", "multiplier"]
  have hretries : Reading.setting found "max_retries" RetryPolicy.standard.maxRetries _ = _ :=
    setting_number rfl (hlookup .retries (by decide) rfl (by decide)) UInt32.ofNat
      RetryPolicy.standard.maxRetries.toNat
  have hinitial := hnone "initial_delay_ms" (by decide) (by decide)
  have hgreatest := hnone "max_delay_ms" (by decide) (by decide)
  have hmultiplier := hnone "multiplier" (by decide) (by decide)
  simp only [Reading.retries?, Json.reading, hfound, hretries, setting_of_none hinitial,
    setting_of_none hgreatest, setting_of_none hmultiplier, bind, Option.bind_some]
  rfl

theorem config?_document (h : env.IsHeldBy sections) (home : String) :
    Json.reading.config? home (.ofJson (document sections)) = some (env.gathered home) := by
  have hnodup : ((sections.map fun x => (x.1, Json.obj x.2)).map (·.1)).Nodup := by
    rw [List.map_map]
    exact h.nodup
  obtain ⟨found, hfound, hlookup⟩ := Document.exists_partialRecord?_written hnodup sectionNames
  have hsection : ∀ name ∈ sectionNames, found.lookup name =
      (sections.lookup name).map fun fields => .ofJson (.obj fields) := by
    intro name hname
    rw [hlookup name hname, Json.lookup_map Json.obj, Option.map_map]
    rfl
  have hserver : Reading.setting found "server" ServerSettings.standard _ = _ :=
    setting_section (hsection "server" (by decide)) rfl (server?_fieldsOf h home)
  have hlog : Reading.setting found "event_log" (LogSettings.standard home) _ = _ :=
    setting_section (hsection "event_log" (by decide)) rfl (log?_fieldsOf h home)
  have hqueue : Reading.setting found "queue" QueueSettings.standard _ = _ :=
    setting_section (hsection "queue" (by decide)) rfl (queue?_fieldsOf h home)
  have hretries : Reading.setting found "retry_policy" RetryPolicy.standard _ = _ :=
    setting_section (hsection "retry_policy" (by decide)) rfl (retries?_fieldsOf h home)
  have hsections : Json.reading.fields? ["server", "event_log", "queue", "retry_policy"]
      (.ofJson (document sections)) = some found := hfound
  simp only [Reading.config?, Config.standard, hsections, hserver, hlog, hqueue, hretries, bind,
    Option.bind_some]
  rfl

end Reading

/-- What the variables are set to, section by section. -/
def sectionsOf (env : Environment) : Sections :=
  sectionNames.map fun name =>
    (name, (Variable.all.filter fun v => v.sectionName = name).filterMap fun v =>
      (v.given? env).map fun j => (v.field, j))

theorem mem_sectionsOf_iff (env : Environment) {name field : String} {j : Json} :
    (∃ fields, (name, fields) ∈ sectionsOf env ∧ (field, j) ∈ fields) ↔
      ∃ v ∈ Variable.all, v.sectionName = name ∧ v.field = field ∧ v.given? env = some j := by
  have hnames : ∀ v ∈ Variable.all, v.sectionName ∈ sectionNames := by decide
  constructor
  · rintro ⟨fields, hfields, hj⟩
    obtain ⟨other, -, heq⟩ := List.mem_map.mp hfields
    obtain ⟨rfl, rfl⟩ := Prod.mk.inj heq
    obtain ⟨v, hv, hset⟩ := List.mem_filterMap.mp hj
    obtain ⟨hv, hsection⟩ := List.mem_filter.mp hv
    obtain ⟨k, hk, heq⟩ := Option.map_eq_some_iff.mp hset
    obtain ⟨rfl, rfl⟩ := Prod.mk.inj heq
    exact ⟨v, hv, of_decide_eq_true hsection, rfl, hk⟩
  · rintro ⟨v, hv, rfl, rfl, hset⟩
    refine ⟨_, List.mem_map_of_mem (hnames v hv), ?_⟩
    refine List.mem_filterMap.mpr ⟨v, List.mem_filter.mpr ⟨hv, decide_eq_true rfl⟩, ?_⟩
    rw [hset, Option.map_some]

theorem isHeldBy_sectionsOf (env : Environment) : env.IsHeldBy (sectionsOf env) where
  nodup := by
    rw [sectionsOf, List.map_map]
    change sectionNames.Nodup
    decide
  nodup_fields := by
    intro x hx
    have hfields : ∀ name ∈ sectionNames,
        ((Variable.all.filter fun v => v.sectionName = name).map (·.field)).Nodup := by decide
    obtain ⟨name, hname, rfl⟩ := List.mem_map.mp hx
    have hdistinct := List.pairwise_map.mp (hfields name hname)
    refine List.pairwise_map.mpr (List.pairwise_filterMap.mpr (hdistinct.imp ?_))
    intro v w hne a ha b hb
    obtain ⟨i, -, rfl⟩ := Option.map_eq_some_iff.mp ha
    obtain ⟨k, -, rfl⟩ := Option.map_eq_some_iff.mp hb
    exact hne
  holds_iff := by
    intro name field j
    simp only [mem_sectionsOf_iff, Variable.given?_eq_some_iff]

theorem Variable.Means.isScalar {v : Variable} (hv : v ∈ Variable.all) {s : String} {j : Json}
    (h : v.Means s j) : j.Integral ∧ j.depth = 0 := by
  have hbits : ∀ v ∈ Variable.all, ∀ bits ∈ v.bits, bits ≤ 64 := by decide
  rw [Means] at h
  split at h
  · obtain rfl := h
    exact ⟨.str s, rfl⟩
  · next bits hsome =>
      obtain ⟨n, ⟨-, -, -, -, -, hlt⟩, rfl⟩ := h
      have hle : Nat.pow 2 bits ≤ Nat.pow 2 64 :=
        Nat.pow_le_pow_right (by decide) (hbits v hv bits hsome)
      have hroom : Nat.pow 2 64 = 18446744073709551616 := rfl
      exact ⟨.int ⟨by omega, by omega⟩, rfl⟩

theorem isWrittenIn_chars (env : Environment) :
    env.IsWrittenIn (String.ofList (document (sectionsOf env)).chars) := by
  have hheld := isHeldBy_sectionsOf env
  have hscalar : ∀ x ∈ sectionsOf env, ∀ f ∈ x.2, f.2.Integral ∧ f.2.depth = 0 := by
    intro x hx f hf
    obtain ⟨v, hv, -, -, s, -, hmeans⟩ := (hheld.holds_iff x.1 f.1 f.2).mp ⟨x.2, hx, hf⟩
    exact hmeans.isScalar hv
  have hintegral : (document (sectionsOf env)).Integral := by
    refine .obj ?_
    intro y hy
    obtain ⟨x, hx, rfl⟩ := List.mem_map.mp hy
    exact .obj fun f hf => (hscalar x hx f hf).1
  have hdepth : (document (sectionsOf env)).depth ≤ 2 := by
    rw [document, Json.depth, Nat.add_le_add_iff_right, Json.fieldsDepth_le_iff]
    intro y hy
    obtain ⟨x, hx, rfl⟩ := List.mem_map.mp hy
    rw [Json.depth, Nat.add_le_add_iff_right, Json.fieldsDepth_le_iff]
    exact fun f hf => (hscalar x hx f hf).2.le
  have hlength : 2 ≤ (document (sectionsOf env)).chars.length := by
    rw [document, Json.chars, Json.braced, List.length_cons, List.length_append,
      List.length_singleton]
    omega
  refine ⟨_, hheld, ?_⟩
  rw [String.toList_ofList]
  exact Json.parse_chars hintegral (hdepth.trans hlength)

theorem ofFile_of_isWrittenIn {name text : String} (hname : ConfigFormat.ofName? name = some .json)
    (h : env.IsWrittenIn text) (home : String) :
    Config.ofFile home name (some (Text.bytes text)) = .ok (env.gathered home) := by
  obtain ⟨sections, hheld, hparse⟩ := h
  have hread : ConfigFormat.read? .json home text.toList = some (env.gathered home) := by
    rw [ConfigFormat.read?, Json.config?, hparse, Option.bind_some]
    exact config?_document hheld home
  rw [Config.ofFile, Option.bind_some, Text.ofBytes?_bytes]
  dsimp only
  rw [hname]
  dsimp only
  rw [hread]

/-- The variables give what a JSON file gives that holds their values, if all of them mean
something; if not, the first that means nothing is reported. -/
theorem variables_agree_with_file (env : Environment) (home : String) :
    ((∃ c, env.config home = .ok c) ↔ ∀ v ∈ Variable.all, v.IsGood env) ∧
    (∀ c, env.config home = .ok c → (∃ text, env.IsWrittenIn text) ∧
      ∀ name text, ConfigFormat.ofName? name = some .json → env.IsWrittenIn text →
        Config.ofFile home name (some (Text.bytes text)) = .ok c) ∧
    ∀ f, env.config home = .error f ↔
      ∃ before v after s, Variable.all = before ++ v :: after ∧ (∀ u ∈ before, u.IsGood env) ∧
        NameTable.find? env v.name = some s ∧ (¬ ∃ j, v.Means s j) ∧
        f = .configuration s!"{v.name} has invalid value '{s}'" := by
  refine ⟨?_, ?_, fun f => config_eq_error_iff⟩
  · simp only [config_eq_ok_iff, exists_and_left, exists_eq, and_true]
  · intro c hc
    obtain ⟨-, rfl⟩ := config_eq_ok_iff.mp hc
    refine ⟨⟨_, isWrittenIn_chars env⟩, ?_⟩
    intro name text hname htext
    exact ofFile_of_isWrittenIn hname htext home

theorem variables_agree_with_file_port :
    (∃ c text, Environment.config [("SMSBRIDGE_PORT", "+0080")] "/home/user" = .ok c ∧
      Config.ofFile "/home/user" "bridge.json" (some (Text.bytes text)) = .ok c ∧
      c.server.port = 80) ∧
    Environment.config [("SMSBRIDGE_MAX_RETRIES", "-1"), ("SMSBRIDGE_PORT", "65536")]
      "/home/user" = .error (.configuration "SMSBRIDGE_PORT has invalid value '65536'") := by
  constructor
  · obtain ⟨-, hfile, -⟩ :=
      variables_agree_with_file [("SMSBRIDGE_PORT", "+0080")] "/home/user"
    have hset : Environment.config [("SMSBRIDGE_PORT", "+0080")] "/home/user" =
        .ok { Config.standard "/home/user" with server := ⟨"0.0.0.0", 80⟩ } := by
      decide +kernel
    obtain ⟨⟨text, htext⟩, hagree⟩ := hfile _ hset
    exact ⟨_, text, hset, hagree "bridge.json" text (by decide +kernel) htext, rfl⟩
  · obtain ⟨-, -, hreport⟩ := variables_agree_with_file
      [("SMSBRIDGE_MAX_RETRIES", "-1"), ("SMSBRIDGE_PORT", "65536")] "/home/user"
    have hhost : Variable.host.IsGood
        [("SMSBRIDGE_MAX_RETRIES", "-1"), ("SMSBRIDGE_PORT", "65536")] :=
      Variable.failure?_eq_none_iff.mp (Variable.failure?_of_text rfl)
    have hport : ¬ ∃ j, Variable.port.Means "65536" j := by
      rw [← Variable.isSome_value?_iff]
      decide +kernel
    refine (hreport _).mpr ⟨[.host], .port, [.path, .endpoint, .key, .timeout, .retries], "65536",
      rfl, ?_, rfl, hport, rfl⟩
    simpa using hhost

end Environment

end SmsGateway
