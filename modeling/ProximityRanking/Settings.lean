import ProximityRanking.Scalar
import ProximityRanking.Pairing
import ProximityRanking.Text.Quoted
/-!
The settings of one scoring pass, with the rule that makes the weight of a pair from those of its
terms. A window of at least one token is part of the type, so every pass counts windows that hold
something.
-/
set_option autoImplicit false

namespace ProximityRanking

inductive WeightRule where
  | average
  | product
  | least
  | greatest
  deriving DecidableEq, Repr

namespace WeightRule

def ofId? : Int → Option WeightRule
  | 1 => some .average
  | 2 => some .product
  | 3 => some .least
  | 4 => some .greatest
  | _ => none

variable {α : Type} [Scalar α]

def apply : WeightRule → α → α → α
  | .average, a, b => 0.5 * a + 0.5 * b
  | .product, a, b => a * b
  | .least, a, b => Scalar.least a b
  | .greatest, a, b => Scalar.greatest a b

/-- The weight of a pair under the rule of a number; a number without a rule leaves every pair at
weight one. -/
def combine (id : Int) (a b : α) : α :=
  match ofId? id with
  | some rule => rule.apply a b
  | none => 1.0

end WeightRule

def DependencyMode.refusal (s : String) : String :=
  Text.quoted s ++ " is not a valid DependencyMode"

inductive Settings.Fault where
  | notANumber (key raw : String)
  | notAnInteger (key raw : String)
  | notABoolean (key raw : String)
  | windowTooShort (length : Int)
  deriving DecidableEq, Repr

namespace Settings.Fault

def message : Settings.Fault → String
  | .notANumber key raw => key ++ " must be a number, got " ++ Text.quoted raw
  | .notAnInteger key raw => key ++ " must be an integer, got " ++ Text.quoted raw
  | .notABoolean key raw => key ++ " must be a boolean, got " ++ Text.quoted raw
  | .windowTooShort length => "ngram length must be at least 1, got " ++ toString length

end Settings.Fault

/-- Settings of a scoring pass: the dependence that is scored, the length of a window in tokens, the
number of the weight rule, the weights of the first score, of ordered and of unordered pairs, and
whether the alternatives of a synonym group are opened one by one. -/
structure Settings (α : Type) where
  mode : DependencyMode
  window : Int
  rule : Int
  baseWeight : α
  orderedWeight : α
  unorderedWeight : α
  splitSynonyms : Bool
  one_le_window : 1 ≤ window

namespace Settings

variable {α : Type} [Scalar α]

def standard : Settings α where
  mode := .unset
  window := 2
  rule := 1
  baseWeight := 1.0
  orderedWeight := 1.0
  unorderedWeight := 1.0
  splitSynonyms := true
  one_le_window := by decide

def withWindow (s : Settings α) (window : Int) : Except Fault (Settings α) :=
  if h : 1 ≤ window then .ok { s with window := window, one_le_window := h }
  else .error (.windowTooShort window)

def pairWeight (s : Settings α) : Pairing → α
  | .adjacent => s.orderedWeight
  | .every => s.unorderedWeight

end Settings
end ProximityRanking
