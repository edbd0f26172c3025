import ProximityRanking.Phrase
/-!
Scoring functions: how surprising it is to see a pair of terms in so many windows of a document of
some length. A function is prepared once for each pass and then asked for every pair; both may
change its state, and both may fail. The plainest one divides the matching windows by the length.
-/
set_option autoImplicit false

namespace ProximityRanking

structure Context (α : Type) where
  window : Int
  averageLength : α
  tokens : Int
  documents : Int

def Context.bare {α : Type} [Scalar α] (window : Int) : Context α where
  window := window
  averageLength := 0.0
  tokens := 0
  documents := 0

/-- What is at hand when a pass begins: the context, the pairing, and, in a pass over a collection,
the phrase and a counter. -/
structure Preparation (α : Type) where
  context : Context α
  pairing : Pairing
  collection : Option (Phrase α × PairCounter)

/-- A scoring function with states of type `σ`: `score` is given the number of matching windows and
the length of the document. -/
structure ScoringFunction (σ α : Type) where
  name : String
  prepare : Preparation α → SessionM σ α Unit
  score : Int → Int → ExceptT Failure (StateM σ) α

/-- The state of the functions of this library: the context of the last preparation and the number
of windows that a pair is expected to match in the collection. -/
structure Binding (α : Type) where
  context : Option (Context α)
  frequency : α

namespace Binding

variable {α : Type} [Scalar α]

def unbound : Binding α where
  context := none
  frequency := 1.0

def bound (context : Context α) : Binding α where
  context := some context
  frequency := 1.0

def require (function : String) (b : Binding α) : Except Failure (Context α) :=
  match b.context with
  | some c => .ok c
  | none => .error (.unprepared function)

end Binding

/-- A function whose preparation remembers the context and whose scores leave the state alone. -/
def ScoringFunction.ofScore {α : Type} [Scalar α] (name : String)
    (score : Binding α → Int → Int → Except Failure α) : ScoringFunction (Binding α) α where
  name := name
  prepare p := SessionM.onScorer (modify fun b => { b with context := some p.context })
  score matching length := fun b => (score b matching length, b)

def Failure.ofInt {α : Type} [Scalar α] (n : Int) : Except Failure α :=
  match Scalar.fromInt? n with
  | some x => .ok x
  | none => .error .integerTooLarge

end ProximityRanking

namespace ProximityRanking.Scoring

variable {α : Type} [Scalar α]

def proportion (matching length : Int) : Except Failure α :=
  if length ≤ 0 then .ok 0.0
  else
    match Scalar.ratio? matching length.toNat with
    | some x => .ok x
    | none => .error .ratioTooLarge

def normalisedCount : ScoringFunction (Binding α) α :=
  .ofScore "NormalisedCount" fun _ => proportion

end ProximityRanking.Scoring
