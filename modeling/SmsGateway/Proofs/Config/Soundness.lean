import SmsGateway.Config.File
import SmsGateway.Config.Setting
import SmsGateway.Config.Validation
import SmsGateway.Proofs.Config.Variables
import SmsGateway.Proofs.Json.Reals

/-!
What a configuration that keeps the rules is good for, wherever it comes from. Its receiver is on
the web and its key can be seen. Its delays do not shrink, or their multiplier is no number: that is
not less than one either. Two of the formats have a word for such a multiplier, and whoever puts a
configuration together may have one; the environment and JSON have none.
-/

namespace SmsGateway

/-- Whether a receiver is an absolute URL with one of the two schemes of the web. -/
def QueueSettings.HasWebEndpoint (q : QueueSettings) : Prop :=
  Url.scheme q.endpoint = .ok "http" ∨ Url.scheme q.endpoint = .ok "https"

/-- Whether a key has a character that is no blank. -/
def QueueSettings.HasKey (q : QueueSettings) : Prop :=
  ∃ c ∈ q.key.toList, Text.isBlank c = false

theorem QueueSettings.validate_iff {q : QueueSettings} :
    q.validate = .ok () ↔ q.HasWebEndpoint ∧ q.HasKey := by
  rw [HasWebEndpoint, HasKey, ← Text.isBlankText_eq_false_iff, validate]
  cases hscheme : Url.scheme q.endpoint with
  | error e => simp
  | ok scheme =>
      dsimp only
      split
      · next hother =>
          obtain ⟨hhttp, hhttps⟩ := hother
          simp [hhttp, hhttps]
      · next hweb =>
          have hweb' : scheme = "http" ∨ scheme = "https" := by
            rwa [not_and_or, not_not, not_not] at hweb
          split
          · next hblank => simp [hblank]
          · next hblank => simpa [hblank] using hweb'

namespace Config

variable {c : Config}

theorem validate_iff :
    c.validate = .ok () ↔ c.queue.HasWebEndpoint ∧ c.queue.HasKey ∧
      (c.retries.multiplier.IsNaN ∨ c.retries.multiplier.IsAtLeast 1) := by
  rw [← Number.Single.not_lt_one_iff, ← and_assoc, ← QueueSettings.validate_iff, validate]
  cases hqueue : c.queue.validate with
  | error e => simp [bind, Except.bind]
  | ok u =>
      simp only [bind, Except.bind, true_and]
      split
      · next hlt => simp [hlt, throw, throwThe, MonadExceptOf.throw]
      · next hlt => simp [hlt, pure, Except.pure]

/-- Where a configuration comes from. -/
inductive Source where
  /-- A file, by its name and its bytes, if there is one. -/
  | file (name : String) (content : Option (List UInt8))
  | environment (env : Environment)
  /-- Settings that are made one after the other. -/
  | settings (all : List Setting)

namespace Source

/-- The configuration that comes from a source, for a user with a home directory. -/
def load (home : String) : Source → Except Failure Config
  | .file name content => Config.ofFile home name content
  | .environment env => env.config home
  | .settings all => .ok (Config.build home all)

/-- Whether a multiplier that is no number can be put into words. -/
def HasWordForNaN : Source → Prop
  | .file name _ => ConfigFormat.ofName? name ≠ some .json
  | .environment _ => False
  | .settings _ => True

end Source

end Config

namespace Reading

variable {δ α : Type} {r : Reading δ}

theorem of_setting {fields : List (String × δ)} {name : String} {standard a : α}
    {read : δ → Option α} (h : setting fields name standard read = some a) :
    a = standard ∨ ∃ d, (name, d) ∈ fields ∧ read d = some a := by
  unfold setting at h
  split at h
  · exact .inl (Option.some.inj h).symm
  · next d hlookup => exact .inr ⟨d, Json.mem_of_lookup hlookup, h⟩

/-- What holds of the standard multiplier and of every number in a document holds of the
multiplier that is read. -/
theorem multiplier_of_config? {P : δ → Prop} {Q : Number.Single → Prop}
    (hfields : ∀ names d fields, P d → r.fields? names d = some fields → ∀ x ∈ fields, P x.2)
    (hreal : ∀ d x, P d → r.real? d = some x → Q x) (hstandard : Q RetryPolicy.standard.multiplier)
    {home : String} {d : δ} {c : Config} (hd : P d) (h : r.config? home d = some c) :
    Q c.retries.multiplier := by
  simp only [config?, bind, pure, Option.bind_eq_some_iff, Option.some.injEq] at h
  obtain ⟨sections, hsections, -, -, -, -, -, -, retries, hretries, rfl⟩ := h
  obtain rfl | ⟨s, hs, hread⟩ := of_setting hretries
  · exact hstandard
  · simp only [retries?, bind, pure, Option.bind_eq_some_iff, Option.some.injEq] at hread
    obtain ⟨fields, hread, -, -, -, -, -, -, x, hmultiplier, rfl⟩ := hread
    obtain rfl | ⟨v, hv, hx⟩ := of_setting hmultiplier
    · exact hstandard
    · have hpart : P s := hfields _ _ _ hd hsections _ hs
      have hvalue : P v := hfields _ _ _ hpart hread _ hv
      exact hreal _ _ hvalue hx

end Reading

namespace Config

theorem not_isNaN_standard : ¬ RetryPolicy.standard.multiplier.IsNaN := by
  rw [Number.Single.IsNaN]
  decide

variable {home : String} {c : Config}

theorem not_isNaN_of_environment {env : Environment} (h : env.config home = .ok c) :
    ¬ c.retries.multiplier.IsNaN := by
  obtain ⟨-, rfl⟩ := Environment.config_eq_ok_iff.mp h
  exact not_isNaN_standard

theorem not_isNaN_of_json {s : List Char} (h : Json.config? home s = some c) :
    ¬ c.retries.multiplier.IsNaN := by
  obtain ⟨d, hparse, hread⟩ := Option.bind_eq_some_iff.mp h
  exact Reading.multiplier_of_config? (P := Json.Document.Numeric) (Q := fun x => ¬ x.IsNaN)
    (fun names d fields hd => hd.of_partialRecord?) (fun d x hd => hd.of_single?)
    not_isNaN_standard (Json.numeric_of_parse hparse) hread

theorem not_isNaN_of_load {s : Source} (hword : ¬ s.HasWordForNaN) (h : s.load home = .ok c) :
    ¬ c.retries.multiplier.IsNaN := by
  cases s with
  | environment env => exact not_isNaN_of_environment h
  | settings all => exact absurd trivial hword
  | file name content =>
      have hname : ConfigFormat.ofName? name = some .json := not_not.mp hword
      rw [Source.load, ofFile] at h
      split at h
      · simp at h
      · rw [hname] at h
        dsimp only at h
        split at h
        · next hread =>
            obtain rfl := Except.ok.inj h
            exact not_isNaN_of_json hread
        · simp at h

/-- A configuration that is loaded and keeps the rules is sound, but for a multiplier that is no
number; and such a multiplier only comes from where there is a word for it. -/
theorem loaded_keeps_rules_iff {s : Source} (h : s.load home = .ok c) :
    (c.validate = .ok () ↔ c.queue.HasWebEndpoint ∧ c.queue.HasKey ∧
      (c.retries.multiplier.IsNaN ∨ c.retries.multiplier.IsAtLeast 1)) ∧
    (c.retries.multiplier.IsNaN → s.HasWordForNaN) := by
  refine ⟨validate_iff, ?_⟩
  intro hnan
  by_contra hword
  exact not_isNaN_of_load hword h hnan

/-- The standard configuration with a key and a multiplier. -/
def withMultiplier (x : Number.Single) : Config :=
  ⟨.standard, .standard "/home/user", .to QueueSettings.standard.endpoint "k",
    { RetryPolicy.standard with multiplier := x }⟩

/-- A file in TOML that gives a key and a multiplier. -/
def Source.toml (multiplier : String) : Source :=
  .file "bridge.toml" (some (Text.bytes
    ("[queue]\nuser_api_key = 'k'\n[retry_policy]\nmultiplier = " ++ multiplier ++ "\n")))

/-- A file in YAML that gives a key and a multiplier. -/
def Source.yaml (multiplier : String) : Source :=
  .file "bridge.yaml" (some (Text.bytes
    ("queue:\n  user_api_key: k\nretry_policy:\n  multiplier: " ++ multiplier ++ "\n")))

theorem loaded_keeps_rules_iff_toml :
    (Source.toml "1.5").load "/home/user" = .ok (withMultiplier ⟨0x3FC00000⟩) ∧
      (withMultiplier ⟨0x3FC00000⟩).queue.HasWebEndpoint ∧
      (withMultiplier ⟨0x3FC00000⟩).queue.HasKey ∧
      (withMultiplier ⟨0x3FC00000⟩).retries.multiplier.IsAtLeast 1 := by
  have hload : (Source.toml "1.5").load "/home/user" = .ok (withMultiplier ⟨0x3FC00000⟩) := by
    decide +kernel
  have hrules : (withMultiplier ⟨0x3FC00000⟩).validate = .ok () := by decide +kernel
  have hnumber : ¬ (withMultiplier ⟨0x3FC00000⟩).retries.multiplier.IsNaN := by
    rw [Number.Single.IsNaN]
    decide
  obtain ⟨hendpoint, hkey, hmultiplier⟩ := (loaded_keeps_rules_iff hload).1.mp hrules
  exact ⟨hload, hendpoint, hkey, hmultiplier.resolve_left hnumber⟩

/-- A multiplier that is no number keeps the rules, wherever there is a word for it. -/
theorem nan_multiplier_keeps_rules :
    (Source.toml "nan").load "/home/user" = .ok (withMultiplier (.nan false)) ∧
      (Source.yaml ".nan").load "/home/user" = .ok (withMultiplier (.nan false)) ∧
      (withMultiplier (.nan false)).validate = .ok () ∧
      ¬ (withMultiplier (.nan false)).retries.multiplier.IsAtLeast 1 := by
  refine ⟨by decide +kernel, by decide +kernel, by decide +kernel, ?_⟩
  intro h
  refine h.not_isNaN ?_
  rw [Number.Single.IsNaN]
  decide

end Config

end SmsGateway
