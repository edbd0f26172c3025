import ProximityRanking.Settings
import ProximityRanking.Number.Numeral
import ProximityRanking.Text.Word
/-!
Reading settings from an environment. Every variable may be missing or blank and has a default then;
`Settings.read` reports the first bad variable in the order of the fields, and the range of the
window after all of them.
-/
set_option autoImplicit false

namespace ProximityRanking

/-- Variables with their values; the first entry of a name counts. -/
abbrev Environment := List (String × String)

namespace Environment

def value? (env : Environment) (key : String) : Option String :=
  (env.lookup key).filter fun raw => !Text.allBlank raw

def read {β : Type} (env : Environment) (key : String) (default : β) (reader : String → Option β)
    (fault : String → String → Settings.Fault) : Except Settings.Fault β :=
  match env.value? key with
  | none => .ok default
  | some raw =>
    match reader raw with
    | some x => .ok x
    | none => .error (fault key raw)

/-- A number may end in the letter that marks a double. -/
def realOf? (raw : String) : Option Float :=
  let isMark (c : Char) : Bool := c == 'd' || c == 'D'
  let body := Text.dropEndWhile isMark (Text.trimWhile Text.isBlank raw.toList)
  (Numeral.real? (String.ofList body)).map Numeral.toFloat

def booleanOf? (raw : String) : Option Bool :=
  let word := Text.lower (Text.trim raw)
  if ["1", "true", "yes", "on"].contains word then some true
  else if ["0", "false", "no", "off"].contains word then some false
  else none

def real (env : Environment) (key : String) (default : Float) : Except Settings.Fault Float :=
  env.read key default realOf? .notANumber

def integer (env : Environment) (key : String) (default : Int) : Except Settings.Fault Int :=
  env.read key default (fun raw => Numeral.integer? (Text.trim raw)) .notAnInteger

def boolean (env : Environment) (key : String) (default : Bool) : Except Settings.Fault Bool :=
  env.read key default booleanOf? .notABoolean

end Environment

/-- The mode that a variable names by its two letters in either case, blanks around them and the
long s allowed; anything else leaves it unset. -/
def DependencyMode.ofSetting (raw : Option String) : DependencyMode :=
  match Text.trimWhile Text.isBlank (raw.getD "").toList with
  | [c, d] =>
    if ['d', 'D'].contains d then
      if ['s', 'S', 'ſ'].contains c then .sequential
      else if ['f', 'F'].contains c then .full
      else .unset
    else .unset
  | _ => .unset

namespace Settings

def dependencyKey : String := "PROXIMITY_DEPENDENCY_TYPE"

def windowKey : String := "PROXIMITY_NGRAM_LENGTH"

def ruleKey : String := "PROXIMITY_QTW_FNID"

def baseWeightKey : String := "PROXIMITY_W_T"

def orderedWeightKey : String := "PROXIMITY_W_O"

def unorderedWeightKey : String := "PROXIMITY_W_U"

def splitSynonymsKey : String := "PROXIMITY_SPLIT_SYNONYMS"

def read (env : Environment) : Except Fault (Settings Float) := do
  let base : Settings Float := standard
  let window ← env.integer windowKey base.window
  let rule ← env.integer ruleKey base.rule
  let baseWeight ← env.real baseWeightKey base.baseWeight
  let orderedWeight ← env.real orderedWeightKey base.orderedWeight
  let unorderedWeight ← env.real unorderedWeightKey base.unorderedWeight
  let splitSynonyms ← env.boolean splitSynonymsKey base.splitSynonyms
  { base with
    mode := .ofSetting (env.lookup dependencyKey)
    rule := rule
    baseWeight := baseWeight
    orderedWeight := orderedWeight
    unorderedWeight := unorderedWeight
    splitSynonyms := splitSynonyms }.withWindow window

end Settings
end ProximityRanking
