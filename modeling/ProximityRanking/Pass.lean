import ProximityRanking.Scoring
import ProximityRanking.Stream
import ProximityRanking.Progress
/-!
The scoring pass over a phrase. Documents are visited in ascending order while the streams of the
phrase move along with them, so every posting is read at most once. A document with two or more
terms of the phrase gets the scores of its pairs on top of its weighted score; the pairs are scored
by a rescorer, which is a scoring function with a counter of windows. A failure ends the pass at the
document where it struck: earlier documents keep their new scores, that one and the later ones have
their weighted scores only.
-/
set_option autoImplicit false

namespace ProximityRanking

variable {σ α : Type}

structure Rescorer (σ α : Type) where
  function : ScoringFunction σ α
  counter : PairCounter

namespace Rescorer

def label (r : Rescorer σ α) : String :=
  "DependenceScoreModifier[" ++ r.function.name ++ "]"

/-- The score of two terms in a document. A score that is not finite is reported and counts all the
same. -/
def scorePair [Scalar α] (r : Rescorer σ α) (pairing : Pairing) (window : Int)
    (i : Nat) (a : Sighting) (j : Nat) (b : Sighting) : SessionM σ α α := do
  let first ← SessionM.ofExcept a.positions
  let second ← SessionM.ofExcept b.positions
  let matching ← SessionM.count r.counter ⟨pairing, first, second, window, a.length⟩
  let score ← SessionM.onScorer (r.function.score matching a.length)
  if !Scalar.isFinite score then
    modify (·.report (.anomaly ⟨r.function.name, score, a.docid, i, j, matching, a.length⟩))
  pure score

end Rescorer

structure Slot (α : Type) where
  place : Nat
  weight : α
  sighting : Option Sighting

/-- A pass over a phrase: what is scored, under which settings, and with which weights of the
terms. -/
structure Pass (σ α : Type) where
  rescorer : Rescorer σ α
  settings : Settings α
  pairing : Pairing
  weights : List α

namespace Pass

variable [Scalar α]

def slots (p : Pass σ α) (streams : List Stream) (docid : Int) : List (Slot α) :=
  (p.weights.zip streams).zipIdx.map fun ((weight, s), place) =>
    ⟨place, weight, s.sighting? docid⟩

def addPairs (p : Pass σ α) : List (Slot α × Slot α) → α → SessionM σ α α
  | [], total => pure total
  | (x, y) :: rest, total =>
    match x.sighting, y.sighting with
    | some a, some b => do
      let score ← p.rescorer.scorePair p.pairing p.settings.window x.place a y.place b
      let weight := WeightRule.combine p.settings.rule x.weight y.weight
      p.addPairs rest (total + score * weight * p.settings.pairWeight p.pairing)
    | _, _ => p.addPairs rest total

def boost (p : Pass σ α) (slots : List (Slot α)) : SessionM σ α α :=
  p.addPairs (p.pairing.pairs slots) 0.0

/-- A document with a score that is not positive counts as irrelevant and is passed over, unless all
scores are zero. -/
def isPruned (allZero : Bool) (row : Row α) : Bool :=
  !allZero && decide (row.score ≤ 0.0)

/-- Visits rows in ascending order of their documents. The streams follow those that are not passed
over. -/
def visit (p : Pass σ α) (allZero : Bool) :
    (rows : List (Row α)) → List Stream → StateM (Session σ α) (Progress rows)
  | [], streams => pure (.done streams)
  | row :: rest, streams => do
    if isPruned allZero row then
      return (← p.visit allZero rest streams).keep row
    let streams := streams.map (Stream.advance row.docid)
    let slots := p.slots streams row.docid
    if slots.countP (·.sighting.isSome) < 2 then
      return (← p.visit allZero rest streams).keep row
    match ← (p.boost slots).run with
    | .error e => return .stopped (row :: rest) streams 1 e
    | .ok x => return (← p.visit allZero rest streams).rescore row (row.score + x)

def ready (p : Pass σ α) (phrase : Phrase α) : SessionM σ α (List Stream) := do
  let streams := (phrase.streamsIn (← get)).map Stream.step
  let statistics := phrase.source.statistics
  let average ← SessionM.ofOption .ratioTooLarge (statistics.averageWindows? p.settings.window)
  p.rescorer.function.prepare {
    context := ⟨p.settings.window, average, statistics.tokens, statistics.documents⟩
    pairing := p.pairing
    collection := some (phrase, p.rescorer.counter) }
  pure streams

def weighted (p : Pass σ α) (results : ResultSet α) : ResultSet α :=
  results.sortByDocid.mapScores (· * p.settings.baseWeight)

/-- Rescores a result set. What fails before the documents are visited leaves it as it was. -/
def run (p : Pass σ α) (phrase : Phrase α) (results : ResultSet α) :
    StateM (Session σ α) (Outcome × ResultSet α) := do
  match ← (p.ready phrase).run with
  | .error e => return (.ended 0 (some e), results)
  | .ok streams =>
    let allZero := results.rows.all (·.score == 0.0)
    let weighted := p.weighted results
    let progress ← p.visit allZero weighted.rows streams
    return (.ended progress.altered progress.failure,
      ⟨progress.rescored, progress.docids_eq ▸ weighted.nodup_docids⟩)

end Pass
end ProximityRanking
