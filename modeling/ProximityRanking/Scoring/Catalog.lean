import ProximityRanking.Scoring.Binomial
import ProximityRanking.Scoring.MarkovField
import ProximityRanking.Settings.Reading
/-!
The scoring functions by their names, with parameters from the environment.
-/
set_option autoImplicit false

namespace ProximityRanking.Scoring

inductive Choice where
  | count
  | markovField
  | binomial
  | normalisedBinomial
  deriving DecidableEq, Repr

namespace Choice

def name : Choice → String
  | .count => "count"
  | .markovField => "mrf"
  | .binomial => "pbil"
  | .normalisedBinomial => "pbil2"

def all : List Choice :=
  [count, markovField, binomial, normalisedBinomial]

def named? (s : String) : Option Choice :=
  all.find? (·.name == s)

def normalisationKey : String := "PROXIMITY_PBIL2_C"

def smoothingKey : String := "PROXIMITY_MRF_MU"

def make (env : Environment) :
    Choice → Except Settings.Fault (ScoringFunction (Binding Float) Float)
  | .count => .ok normalisedCount
  | .binomial => .ok binomialRandomness
  | .normalisedBinomial =>
    Scoring.normalisedBinomialRandomness <$> env.real normalisationKey defaultNormalisation
  | .markovField => Scoring.markovField <$> env.real smoothingKey defaultSmoothing

end Choice
end ProximityRanking.Scoring
