import SmsGateway.Config.Environment
import SmsGateway.Json.Basic

namespace SmsGateway

namespace Environment

/-- Whether a text stands for a number of at most some bits: it holds one digit at least, and
nothing else but perhaps a plus sign before them. -/
def Spells (bits : Nat) (s : String) (n : Nat) : Prop :=
  ∃ ds : List Char, ds ≠ [] ∧ (∀ c ∈ ds, c.isDigit = true) ∧
    (s.toList = ds ∨ s.toList = '+' :: ds) ∧ Nat.ofDigitChars 10 ds 0 = n ∧ n < Nat.pow 2 bits

/-- A text without a leading plus sign. -/
def unsigned : List Char → List Char
  | '+' :: rest => rest
  | all => all

theorem unsigned_eq_iff {cs ds : List Char} (h : ∀ c ∈ ds, c.isDigit = true) :
    unsigned cs = ds ↔ cs = ds ∨ cs = '+' :: ds := by
  unfold unsigned
  split
  · next rest =>
      have hne : '+' :: rest ≠ ds := by
        rintro rfl
        have hplus := h '+' List.mem_cons_self
        simp at hplus
      simp [hne]
  · next hne =>
      have hne' : cs ≠ '+' :: ds := fun heq => hne ds heq
      simp [hne']

theorem number?_eq_some_iff {bits n : Nat} {s : String} :
    number? bits s = some n ↔ Spells bits s n := by
  have hunfold : number? bits s =
      if unsigned s.toList = [] ∨ !(unsigned s.toList).all Char.isDigit then none
      else if Nat.ofDigitChars 10 (unsigned s.toList) 0 < Nat.pow 2 bits then
        some (Nat.ofDigitChars 10 (unsigned s.toList) 0)
      else none := rfl
  rw [hunfold, Option.ite_none_left_eq_some, Option.ite_none_right_eq_some, Option.some.injEq,
    not_or, Bool.not_eq_true', Bool.not_eq_false, List.all_eq_true]
  constructor
  · rintro ⟨⟨hne, hdigit⟩, hlt, rfl⟩
    exact ⟨_, hne, hdigit, (unsigned_eq_iff hdigit).mp rfl, rfl, hlt⟩
  · rintro ⟨ds, hne, hdigit, hs, rfl, hlt⟩
    rw [(unsigned_eq_iff hdigit).mpr hs]
    exact ⟨⟨hne, hdigit⟩, hlt, rfl⟩

/-- The number that a variable is set to. -/
def numberIn? (env : Environment) (name : String) (bits : Nat) : Option Nat :=
  (NameTable.find? env name).bind (number? bits)

/-- What a variable gives: a field of a section, which is a text, or a number if its bits are
bounded. -/
structure Variable where
  name : String
  sectionName : String
  field : String
  bits : Option Nat
  deriving DecidableEq

namespace Variable

def host : Variable := ⟨"SMSBRIDGE_HOST", "server", "host", none⟩

def port : Variable := ⟨"SMSBRIDGE_PORT", "server", "port", some 16⟩

def path : Variable := ⟨"SMSBRIDGE_EVENT_DB_PATH", "event_log", "path", none⟩

def endpoint : Variable := ⟨"SMSBRIDGE_CONSUMER_ENDPOINT", "queue", "consumer_endpoint", none⟩

def key : Variable := ⟨"SMSBRIDGE_API_KEY", "queue", "user_api_key", none⟩

def timeout : Variable :=
  ⟨"SMSBRIDGE_REQUEST_TIMEOUT_SECS", "queue", "request_timeout_secs", some 64⟩

def retries : Variable := ⟨"SMSBRIDGE_MAX_RETRIES", "retry_policy", "max_retries", some 32⟩

/-- The variables in the order in which they are looked at. -/
def all : List Variable :=
  [host, port, path, endpoint, key, timeout, retries]

/-- What the text of a variable means. -/
def Means (v : Variable) (s : String) (j : Json) : Prop :=
  match v.bits with
  | none => j = .str s
  | some bits => ∃ n : Nat, Spells bits s n ∧ j = .int n

/-- Whether a variable means something if it is set. -/
def IsGood (v : Variable) (env : Environment) : Prop :=
  ∀ s, NameTable.find? env v.name = some s → ∃ j, v.Means s j

/-- The value of the text of a variable. -/
def value? (v : Variable) (s : String) : Option Json :=
  match v.bits with
  | none => some (.str s)
  | some bits => (number? bits s).map fun n : Nat => .int n

/-- The value that a variable is set to. -/
def given? (v : Variable) (env : Environment) : Option Json :=
  (NameTable.find? env v.name).bind v.value?

/-- What is reported of a variable. -/
def failure? (v : Variable) (env : Environment) : Option Failure :=
  (NameTable.find? env v.name).bind fun s =>
    if (v.value? s).isSome then none
    else some (.configuration s!"{v.name} has invalid value '{s}'")

variable {v : Variable} {env : Environment}

theorem value?_eq_some_iff {s : String} {j : Json} : v.value? s = some j ↔ v.Means s j := by
  rw [value?, Means]
  split
  · rw [Option.some.injEq, eq_comm]
  · simp only [Option.map_eq_some_iff, number?_eq_some_iff, @eq_comm _ j]

theorem given?_eq_some_iff {j : Json} :
    v.given? env = some j ↔ ∃ s, NameTable.find? env v.name = some s ∧ v.Means s j := by
  simp only [given?, Option.bind_eq_some_iff, value?_eq_some_iff]

theorem given?_of_text (h : v.bits = none) :
    v.given? env = (NameTable.find? env v.name).map .str := by
  rw [given?, Option.map_eq_bind]
  congr 1
  funext s
  rw [value?, h]
  rfl

theorem given?_of_number {bits : Nat} (h : v.bits = some bits) :
    v.given? env = (env.numberIn? v.name bits).map fun n : Nat => .int n := by
  rw [given?, numberIn?, Option.map_bind]
  congr 1
  funext s
  rw [value?, h]
  rfl

theorem isSome_value?_iff {s : String} : (v.value? s).isSome = true ↔ ∃ j, v.Means s j := by
  simp only [Option.isSome_iff_exists, value?_eq_some_iff]

theorem failure?_eq_none_iff : v.failure? env = none ↔ v.IsGood env := by
  simp only [failure?, Option.bind_eq_none_iff, IsGood, ← isSome_value?_iff, ite_eq_left_iff,
    Bool.not_eq_true, reduceCtorEq, imp_false, Bool.not_eq_false]

theorem failure?_eq_some_iff {f : Failure} :
    v.failure? env = some f ↔ ∃ s, NameTable.find? env v.name = some s ∧ (¬ ∃ j, v.Means s j) ∧
      f = .configuration s!"{v.name} has invalid value '{s}'" := by
  simp only [failure?, Option.bind_eq_some_iff, ← isSome_value?_iff,
    Option.ite_none_left_eq_some, Option.some.injEq, @eq_comm _ f]

theorem failure?_of_text (h : v.bits = none) : v.failure? env = none := by
  rw [failure?_eq_none_iff]
  intro s hs
  exact ⟨.str s, by rw [Means, h]⟩

end Variable

theorem numberOr_eq {v : Variable} {bits : Nat} (h : v.bits = some bits) (env : Environment)
    (standard : Nat) :
    env.numberOr v.name bits standard =
      match v.failure? env with
      | some f => .error f
      | none => .ok ((env.numberIn? v.name bits).getD standard) := by
  rw [numberOr, Variable.failure?, numberIn?]
  cases NameTable.find? env v.name with
  | none => rfl
  | some s =>
      simp only [Option.bind_some, Variable.value?, h]
      cases number? bits s <;> rfl

/-- What the variables give if all of them are good. -/
def gathered (env : Environment) (home : String) : Config :=
  let base := Config.standard home
  ⟨⟨env.textOr "SMSBRIDGE_HOST" base.server.host,
      UInt16.ofNat ((env.numberIn? "SMSBRIDGE_PORT" 16).getD base.server.port.toNat)⟩,
    ⟨env.textOr "SMSBRIDGE_EVENT_DB_PATH" base.log.path⟩,
    ⟨env.textOr "SMSBRIDGE_CONSUMER_ENDPOINT" base.queue.endpoint,
      env.textOr "SMSBRIDGE_API_KEY" base.queue.key,
      UInt64.ofNat ((env.numberIn? "SMSBRIDGE_REQUEST_TIMEOUT_SECS" 64).getD
        base.queue.requestTimeoutSecs.toNat)⟩,
    { base.retries with
      maxRetries := UInt32.ofNat
        ((env.numberIn? "SMSBRIDGE_MAX_RETRIES" 32).getD base.retries.maxRetries.toNat) }⟩

/-- The first variable that is not good is reported. -/
theorem config_eq (env : Environment) (home : String) :
    env.config home =
      match Variable.all.findSome? (·.failure? env) with
      | some f => .error f
      | none => .ok (env.gathered home) := by
  have hport (n : Nat) : env.numberOr "SMSBRIDGE_PORT" 16 n = _ :=
    numberOr_eq (v := .port) rfl env n
  have htimeout (n : Nat) : env.numberOr "SMSBRIDGE_REQUEST_TIMEOUT_SECS" 64 n = _ :=
    numberOr_eq (v := .timeout) rfl env n
  have hretries (n : Nat) : env.numberOr "SMSBRIDGE_MAX_RETRIES" 32 n = _ :=
    numberOr_eq (v := .retries) rfl env n
  have hhost : Variable.host.failure? env = none := Variable.failure?_of_text rfl
  have hpath : Variable.path.failure? env = none := Variable.failure?_of_text rfl
  have hendpoint : Variable.endpoint.failure? env = none := Variable.failure?_of_text rfl
  have hkey : Variable.key.failure? env = none := Variable.failure?_of_text rfl
  simp only [config, hport, htimeout, hretries, Variable.all, List.findSome?_cons,
    List.findSome?_nil, hhost, hpath, hendpoint, hkey]
  cases Variable.port.failure? env with
  | some f => rfl
  | none =>
      cases Variable.timeout.failure? env with
      | some f => rfl
      | none => cases Variable.retries.failure? env <;> rfl

theorem config_eq_ok_iff {env : Environment} {home : String} {c : Config} :
    env.config home = .ok c ↔ (∀ v ∈ Variable.all, v.IsGood env) ∧ c = env.gathered home := by
  simp only [← Variable.failure?_eq_none_iff, ← List.findSome?_eq_none_iff]
  rw [config_eq]
  cases Variable.all.findSome? (·.failure? env) with
  | some f => simp
  | none => simp [eq_comm]

theorem config_eq_error_iff {env : Environment} {home : String} {f : Failure} :
    env.config home = .error f ↔
      ∃ before v after s, Variable.all = before ++ v :: after ∧ (∀ u ∈ before, u.IsGood env) ∧
        NameTable.find? env v.name = some s ∧ (¬ ∃ j, v.Means s j) ∧
        f = .configuration s!"{v.name} has invalid value '{s}'" := by
  have hfirst : env.config home = .error f ↔
      Variable.all.findSome? (·.failure? env) = some f := by
    rw [config_eq]
    cases Variable.all.findSome? (·.failure? env) <;> simp
  rw [hfirst, List.findSome?_eq_some_iff]
  constructor
  · rintro ⟨before, v, after, hall, hv, hbefore⟩
    obtain ⟨s, hs, hbad, rfl⟩ := Variable.failure?_eq_some_iff.mp hv
    exact ⟨before, v, after, s, hall,
      fun u hu => Variable.failure?_eq_none_iff.mp (hbefore u hu), hs, hbad, rfl⟩
  · rintro ⟨before, v, after, s, hall, hbefore, hs, hbad, rfl⟩
    exact ⟨before, v, after, hall, Variable.failure?_eq_some_iff.mpr ⟨s, hs, hbad, rfl⟩,
      fun u hu => Variable.failure?_eq_none_iff.mpr (hbefore u hu)⟩

end Environment

end SmsGateway
