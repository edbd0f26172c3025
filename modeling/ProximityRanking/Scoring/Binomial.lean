import ProximityRanking.Scoring
/-!
Binomial randomness. If matching windows fell at random among `background` windows, each with
probability `1 / background`, how improbable would their number be? The score is the information of
that event, divided by one more than the number.
-/
set_option autoImplicit false

namespace ProximityRanking.Scoring

variable {α : Type} [LogScalar α]

/-- `x log y`, which is zero for `x = 0` whatever `y` is, if it is a number. -/
def xLog (x y : α) : α :=
  if x == 0.0 && !Scalar.isUndefined y then 0.0 else x * LogScalar.log y

/-- The logarithm of the binomial probability of `tf` successes in `background` trials that succeed
with probability `1 / background`. -/
def logBinomial (tf background : α) : α :=
  let p : α := 1.0 / background
  let q : α := 1.0 - p
  LogScalar.lnGamma (background + 1.0) - LogScalar.lnGamma (tf + 1.0)
    - LogScalar.lnGamma (background - tf + 1.0) + xLog tf p + xLog (background - tf) q

def informativeness (tf background : α) : α :=
  -(logBinomial tf background) / LogScalar.log 2.0 / (1.0 + tf)

def binomialScore (c : Context α) (matching length : Int) : Except Failure α := do
  if matching = 0 then return 0.0
  let windows : α ← Failure.ofInt (windowCount c.window length)
  let tf : α ← Failure.ofInt matching
  return informativeness tf windows

def binomialRandomness : ScoringFunction (Binding α) α :=
  .ofScore "BinomialRandomness" fun b matching length => do
    let c ← b.require "BinomialRandomness"
    binomialScore c matching length

/-- The number of matching windows of a document brought to the average length: `matching *
log2 (1 + c * average / windows)`. -/
def rescaledCount (normalisation : α) (c : Context α) (matching length : Int) :
    Except Failure α := do
  let windows : α ← Failure.ofInt (windowCount c.window length)
  let tf : α ← Failure.ofInt matching
  return tf * LogScalar.log2 (1.0 + normalisation * c.averageLength / windows)

def normalisedBinomialScore (normalisation : α) (c : Context α) (matching length : Int) :
    Except Failure α := do
  if matching = 0 then return 0.0
  let tf ← rescaledCount normalisation c matching length
  return informativeness tf c.averageLength

def normalisedBinomialRandomness (normalisation : α) : ScoringFunction (Binding α) α :=
  .ofScore "NormalisedBinomialRandomness" fun b matching length => do
    let c ← b.require "NormalisedBinomialRandomness"
    normalisedBinomialScore normalisation c matching length

def defaultNormalisation : Float := 1.0

end ProximityRanking.Scoring
