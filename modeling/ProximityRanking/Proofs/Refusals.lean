import Mathlib.Data.List.Basic
import Mathlib.Data.List.TakeWhile
import ProximityRanking.Settings.Reading
/-!
Settings that are refused. Each variable but that of the mode may hold a text that its reader does
not take (`Settings.Variable`), and the first such variable is reported. Only when there is none
does the range of the window count.
-/
set_option autoImplicit false

namespace ProximityRanking

variable {β : Type}

namespace Text

theorem dropEndWhile_eq_nil_iff (p : Char → Bool) (cs : List Char) :
    dropEndWhile p cs = [] ↔ cs.all p = true := by
  rw [dropEndWhile, List.reverse_eq_nil_iff, List.dropWhile_eq_nil_iff]
  simp

theorem all_dropWhile (p : Char → Bool) (cs : List Char) : (cs.dropWhile p).all p = cs.all p := by
  induction cs with
  | nil => rfl
  | cons c rest ih => by_cases hc : p c = true <;> simp [hc, ih]

theorem trim_eq_empty_iff (s : String) : trim s = "" ↔ allBlank s = true := by
  rw [trim, String.ofList_eq_empty_iff, trimWhile, dropEndWhile_eq_nil_iff, all_dropWhile, allBlank]

end Text

namespace Environment

/-- What a variable stands for. Missing or blank it stands for its default. -/
def valueOr (env : Environment) (key : String) (default : β) (reader : String → Option β) : β :=
  match env.lookup key with
  | none => default
  | some raw => if Text.trim raw = "" then default else (reader raw).getD default

theorem valueOr_congr {env env' : Environment} {key : String}
    (h : env'.lookup key = env.lookup key) (default : β) (reader : String → Option β) :
    env'.valueOr key default reader = env.valueOr key default reader := by
  rw [valueOr, h, valueOr]

def integerOf? (raw : String) : Option Int :=
  Numeral.integer? (Text.trim raw)

def realBody (raw : String) : String :=
  String.ofList (Text.dropEndWhile (fun c => c == 'd' || c == 'D') (Text.trim raw).toList)

theorem realOf?_eq (raw : String) :
    realOf? raw = (Numeral.real? (realBody raw)).map Numeral.toFloat := by
  simp [realOf?, realBody, Text.trim]

def booleanWords : List String :=
  ["1", "true", "yes", "on"] ++ ["0", "false", "no", "off"]

theorem booleanOf?_isSome (raw : String) :
    (booleanOf? raw).isSome = booleanWords.contains (Text.lower (Text.trim raw)) := by
  rw [booleanOf?, booleanWords, List.contains_append]
  cases ["1", "true", "yes", "on"].contains (Text.lower (Text.trim raw)) with
  | true => simp
  | false => cases ["0", "false", "no", "off"].contains (Text.lower (Text.trim raw)) <;> simp

end Environment

namespace Settings

/-- A variable with the texts that it takes and what is said of any other. -/
structure Variable where
  key : String
  accepts : String → Bool
  fault : String → String → Fault

def Variable.refusal? (v : Variable) (env : Environment) : Option Fault :=
  match env.lookup v.key with
  | none => none
  | some raw =>
    if Text.trim raw = "" ∨ v.accepts raw = true then none else some (v.fault v.key raw)

def integerVariable (key : String) : Variable :=
  ⟨key, fun raw => (Environment.integerOf? raw).isSome, .notAnInteger⟩

def realVariable (key : String) : Variable :=
  ⟨key, fun raw => (Numeral.real? (Environment.realBody raw)).isSome, .notANumber⟩

def booleanVariable (key : String) : Variable :=
  ⟨key, fun raw => Environment.booleanWords.contains (Text.lower (Text.trim raw)), .notABoolean⟩

def unlessRefused (vs : List Variable) (env : Environment) (result : Except Fault β) :
    Except Fault β :=
  match vs.findSome? fun v => v.refusal? env with
  | some fault => .error fault
  | none => result

theorem unlessRefused_append (vs ws : List Variable) (env : Environment)
    (result : Except Fault β) :
    unlessRefused (vs ++ ws) env result = unlessRefused vs env (unlessRefused ws env result) := by
  unfold unlessRefused
  rw [List.findSome?_append]
  cases vs.findSome? fun v => v.refusal? env <;> rfl

theorem unlessRefused_bind {γ : Type} (vs : List Variable) (env : Environment) (x : β)
    (f : β → Except Fault γ) :
    (unlessRefused vs env (.ok x) >>= f) = unlessRefused vs env (f x) := by
  unfold unlessRefused
  cases vs.findSome? fun v => v.refusal? env <;> rfl

theorem read_eq_valueOr (env : Environment) (v : Variable) (default : β)
    {reader : String → Option β} (hreader : ∀ raw, (reader raw).isSome = v.accepts raw) :
    env.read v.key default reader v.fault =
      unlessRefused [v] env (.ok (env.valueOr v.key default reader)) := by
  unfold Environment.read Environment.value? unlessRefused Environment.valueOr
  cases hlookup : env.lookup v.key with
  | none => simp [Variable.refusal?, hlookup]
  | some raw =>
    have haccepts := hreader raw
    by_cases hblank : Text.trim raw = ""
    · have hall := (Text.trim_eq_empty_iff raw).1 hblank
      simp [Variable.refusal?, hlookup, Option.filter_some, hblank, hall]
    · have hall : Text.allBlank raw = false := by
        simpa using fun h => hblank ((Text.trim_eq_empty_iff raw).2 h)
      cases hread : reader raw <;>
        simp [Variable.refusal?, hlookup, Option.filter_some, hblank, hall, hread, ← haccepts]

theorem integer_eq (env : Environment) (key : String) (default : Int) :
    env.integer key default = unlessRefused [integerVariable key] env
      (.ok (env.valueOr key default Environment.integerOf?)) := by
  have haccepts : ∀ raw, (Environment.integerOf? raw).isSome =
      (integerVariable key).accepts raw := by
    intro raw
    rw [integerVariable]
  exact read_eq_valueOr env (integerVariable key) default haccepts

theorem real_eq (env : Environment) (key : String) (default : Float) :
    env.real key default = unlessRefused [realVariable key] env
      (.ok (env.valueOr key default Environment.realOf?)) := by
  have haccepts : ∀ raw, (Environment.realOf? raw).isSome = (realVariable key).accepts raw := by
    intro raw
    rw [realVariable, Environment.realOf?_eq, Option.isSome_map]
  exact read_eq_valueOr env (realVariable key) default haccepts

theorem boolean_eq (env : Environment) (key : String) (default : Bool) :
    env.boolean key default = unlessRefused [booleanVariable key] env
      (.ok (env.valueOr key default Environment.booleanOf?)) := by
  have haccepts : ∀ raw, (Environment.booleanOf? raw).isSome =
      (booleanVariable key).accepts raw := by
    intro raw
    rw [booleanVariable, Environment.booleanOf?_isSome]
  exact read_eq_valueOr env (booleanVariable key) default haccepts

def checkedVariables : List Variable :=
  [integerVariable windowKey, integerVariable ruleKey, realVariable baseWeightKey,
    realVariable orderedWeightKey, realVariable unorderedWeightKey,
    booleanVariable splitSynonymsKey]

def assembled (env : Environment) : Except Fault (Settings Float) :=
  { (standard : Settings Float) with
    mode := .ofSetting (env.lookup dependencyKey)
    rule := env.valueOr ruleKey 1 Environment.integerOf?
    baseWeight := env.valueOr baseWeightKey 1.0 Environment.realOf?
    orderedWeight := env.valueOr orderedWeightKey 1.0 Environment.realOf?
    unorderedWeight := env.valueOr unorderedWeightKey 1.0 Environment.realOf?
    splitSynonyms := env.valueOr splitSynonymsKey true Environment.booleanOf?
    }.withWindow (env.valueOr windowKey 2 Environment.integerOf?)

theorem read_eq (env : Environment) :
    read env = unlessRefused checkedVariables env (assembled env) := by
  unfold read
  simp only [integer_eq, real_eq, boolean_eq, unlessRefused_bind, ← unlessRefused_append]
  rfl

namespace Variable

variable {v : Variable} {env env' : Environment}

def Acceptable (v : Variable) (env : Environment) : Prop :=
  ∀ raw, env.lookup v.key = some raw → Text.trim raw = "" ∨ v.accepts raw = true

theorem refusal?_eq_none_iff : v.refusal? env = none ↔ v.Acceptable env := by
  unfold refusal? Acceptable
  cases env.lookup v.key <;> simp [Classical.or_iff_not_imp_left]

theorem refusal?_eq_some_iff {fault : Fault} : v.refusal? env = some fault ↔
    ∃ raw, env.lookup v.key = some raw ∧ Text.trim raw ≠ "" ∧ v.accepts raw = false ∧
      fault = v.fault v.key raw := by
  unfold refusal?
  cases env.lookup v.key with
  | none => simp
  | some raw =>
    by_cases hblank : Text.trim raw = ""
    · simp [hblank]
    · cases haccepts : v.accepts raw <;> simp [hblank, haccepts, @eq_comm _ fault]

theorem refusal?_congr (h : env'.lookup v.key = env.lookup v.key) :
    v.refusal? env' = v.refusal? env := by
  rw [refusal?, h, refusal?]

end Variable

theorem withWindow_eq_ok {s s' : Settings Float} {window : Int}
    (h : s.withWindow window = .ok s') :
    ∃ hwindow : 1 ≤ window, s' = { s with window := window, one_le_window := hwindow } := by
  by_cases hwindow : 1 ≤ window
  · rw [withWindow, dif_pos hwindow] at h
    exact ⟨hwindow, (Except.ok.inj h).symm⟩
  · rw [withWindow, dif_neg hwindow] at h
    cases h

theorem withWindow_eq_error_iff {s : Settings Float} {window : Int} {fault : Fault} :
    s.withWindow window = .error fault ↔ window < 1 ∧ fault = .windowTooShort window := by
  by_cases hwindow : 1 ≤ window
  · simp [withWindow, hwindow, Int.not_lt.2 hwindow]
  · simp [withWindow, hwindow, Int.not_le.1 hwindow, eq_comm]

theorem forall_acceptable_iff {env : Environment} :
    (∀ v ∈ checkedVariables, v.Acceptable env) ↔
      (checkedVariables.findSome? fun v => v.refusal? env) = none := by
  simp only [List.findSome?_eq_none_iff, Variable.refusal?_eq_none_iff]

theorem read_of_acceptable {env : Environment} (h : ∀ v ∈ checkedVariables, v.Acceptable env) :
    read env = assembled env := by
  rw [read_eq, unlessRefused, forall_acceptable_iff.1 h]

theorem read_eq_error_iff {env : Environment} {fault : Fault} :
    read env = .error fault ↔
      (∃ before v after, checkedVariables = before ++ v :: after ∧ v.refusal? env = some fault ∧
        ∀ u ∈ before, u.Acceptable env) ∨
      (∀ v ∈ checkedVariables, v.Acceptable env) ∧
        env.valueOr windowKey 2 Environment.integerOf? < 1 ∧
        fault = .windowTooShort (env.valueOr windowKey 2 Environment.integerOf?) := by
  have hfirst : (∃ before v after, checkedVariables = before ++ v :: after ∧
      v.refusal? env = some fault ∧ ∀ u ∈ before, u.Acceptable env) ↔
        (checkedVariables.findSome? fun v => v.refusal? env) = some fault := by
    simp only [List.findSome?_eq_some_iff, Variable.refusal?_eq_none_iff]
  rw [hfirst, forall_acceptable_iff, read_eq, unlessRefused]
  cases checkedVariables.findSome? fun v => v.refusal? env with
  | some fault' => simp
  | none => simp [assembled, withWindow_eq_error_iff]

theorem acceptable_of_read {env : Environment} {s : Settings Float} (h : read env = .ok s) :
    ∀ v ∈ checkedVariables, v.Acceptable env := by
  rw [read_eq, unlessRefused] at h
  rw [forall_acceptable_iff]
  cases hfirst : checkedVariables.findSome? fun v => v.refusal? env with
  | some fault => simp [hfirst] at h
  | none => rfl

theorem read_eq_ok_iff {env : Environment} : (∃ s, read env = .ok s) ↔
    (∀ v ∈ checkedVariables, v.Acceptable env) ∧
      1 ≤ env.valueOr windowKey 2 Environment.integerOf? := by
  constructor
  · rintro ⟨s, hs⟩
    have hacceptable := acceptable_of_read hs
    rw [read_of_acceptable hacceptable] at hs
    obtain ⟨hwindow, -⟩ := withWindow_eq_ok hs
    exact ⟨hacceptable, hwindow⟩
  · rintro ⟨hacceptable, hwindow⟩
    rw [read_of_acceptable hacceptable, assembled, withWindow, dif_pos hwindow]
    exact ⟨_, rfl⟩

theorem read_eq_error_congr {env env' : Environment}
    (h : ∀ v ∈ checkedVariables, env'.lookup v.key = env.lookup v.key) (fault : Fault) :
    read env' = .error fault ↔ read env = .error fault := by
  have hrefusal : ∀ v ∈ checkedVariables, v.refusal? env' = v.refusal? env :=
    fun v hv => Variable.refusal?_congr (h v hv)
  have hfirst : (checkedVariables.findSome? fun v => v.refusal? env') =
      checkedVariables.findSome? fun v => v.refusal? env := by
    simp only [← List.head?_filterMap, List.filterMap_congr hrefusal]
  have hlookup : env'.lookup windowKey = env.lookup windowKey :=
    h (integerVariable windowKey) (by simp [checkedVariables])
  rw [read_eq, read_eq env, unlessRefused, unlessRefused, hfirst]
  cases checkedVariables.findSome? fun v => v.refusal? env with
  | some fault' => rfl
  | none =>
    simp only [assembled, withWindow_eq_error_iff, Environment.valueOr_congr hlookup]

theorem key_ne_dependencyKey : ∀ v ∈ checkedVariables, v.key ≠ dependencyKey := by
  decide

theorem message_names_key : ∀ v ∈ checkedVariables, ∀ raw, ∃ rest,
    (v.fault v.key raw).message = v.key ++ rest := by
  intro v hv raw
  simp only [checkedVariables, List.mem_cons, List.not_mem_nil, or_false] at hv
  rcases hv with rfl | rfl | rfl | rfl | rfl | rfl <;>
    exact ⟨_, String.append_assoc ..⟩

/-- Settings are read exactly when every variable is missing, blank or taken by its reader and the
window has at least one token; each setting then comes from its own variable. Otherwise the first
variable that is refused is reported, with its name in the message, and the window only if there is
none. The variable of the mode is never refused, whatever it holds. -/
theorem read_refuses_bad_values (env : Environment) :
    ((∃ s, read env = .ok s) ↔
      (∀ v ∈ checkedVariables, v.Acceptable env) ∧
        1 ≤ env.valueOr windowKey 2 Environment.integerOf?) ∧
    (∀ s, read env = .ok s →
      s.mode = .ofSetting (env.lookup dependencyKey) ∧
      s.window = env.valueOr windowKey 2 Environment.integerOf? ∧
      s.rule = env.valueOr ruleKey 1 Environment.integerOf? ∧
      s.baseWeight = env.valueOr baseWeightKey 1.0 Environment.realOf? ∧
      s.orderedWeight = env.valueOr orderedWeightKey 1.0 Environment.realOf? ∧
      s.unorderedWeight = env.valueOr unorderedWeightKey 1.0 Environment.realOf? ∧
      s.splitSynonyms = env.valueOr splitSynonymsKey true Environment.booleanOf?) ∧
    (∀ fault, read env = .error fault ↔
      (∃ before v after, checkedVariables = before ++ v :: after ∧
        (∃ raw, env.lookup v.key = some raw ∧ Text.trim raw ≠ "" ∧ v.accepts raw = false ∧
          fault = v.fault v.key raw) ∧
        ∀ u ∈ before, u.Acceptable env) ∨
      (∀ v ∈ checkedVariables, v.Acceptable env) ∧
        env.valueOr windowKey 2 Environment.integerOf? < 1 ∧
        fault = .windowTooShort (env.valueOr windowKey 2 Environment.integerOf?)) ∧
    (∀ v ∈ checkedVariables, ∀ raw, ∃ rest, (v.fault v.key raw).message = v.key ++ rest) ∧
    ∀ env' : Environment, (∀ key, key ≠ dependencyKey → env'.lookup key = env.lookup key) →
      ((∃ s, read env' = .ok s) ↔ ∃ s, read env = .ok s) ∧
      ∀ fault, read env' = .error fault ↔ read env = .error fault := by
  refine ⟨read_eq_ok_iff, fun s hs => ?_, fun fault => ?_, message_names_key, fun env' henv => ?_⟩
  · have hacceptable := acceptable_of_read hs
    rw [read_of_acceptable hacceptable] at hs
    obtain ⟨-, rfl⟩ := withWindow_eq_ok hs
    exact ⟨rfl, rfl, rfl, rfl, rfl, rfl, rfl⟩
  · simp only [read_eq_error_iff, Variable.refusal?_eq_some_iff]
  · have hlookup : ∀ v ∈ checkedVariables, env'.lookup v.key = env.lookup v.key :=
      fun v hv => henv v.key (key_ne_dependencyKey v hv)
    have herror := read_eq_error_congr hlookup
    refine ⟨?_, herror⟩
    cases hread : read env with
    | error fault => simp [(herror fault).2 hread]
    | ok s =>
      cases hread' : read env' with
      | error fault => simp [(herror fault).1 hread'] at hread
      | ok s' => simp

theorem read_refuses_bad_values_of_two_faults :
    read [("PROXIMITY_NGRAM_LENGTH", "0"), ("PROXIMITY_W_T", "heavy")] =
      .error (.notANumber "PROXIMITY_W_T" "heavy") := by
  obtain ⟨-, -, hfault, -⟩ := read_refuses_bad_values
    [("PROXIMITY_NGRAM_LENGTH", "0"), ("PROXIMITY_W_T", "heavy")]
  refine (hfault _).2 (.inl ⟨[integerVariable windowKey, integerVariable ruleKey],
    realVariable baseWeightKey, _, rfl, ⟨"heavy", rfl, ?_, ?_, rfl⟩, ?_⟩)
  · decide +kernel
  · decide +kernel
  · simp only [← Variable.refusal?_eq_none_iff]
    decide +kernel

end Settings
end ProximityRanking
