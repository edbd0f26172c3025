import ProximityRanking.Pass
import ProximityRanking.BM25
/-!
Rescoring the results of a query: settings are looked at, the terms are opened, the pass runs, and
every stream is closed again. `scoreDocument` scores one document without a pass. In two-stage
ranking candidates are retrieved, rescored by the dependence of their terms, and put in order again.
-/
set_option autoImplicit false

namespace ProximityRanking

variable {σ α : Type}

namespace Rescorer

variable [Scalar α]

def runPhrase (r : Rescorer σ α) (settings : Settings α) (phrase : Phrase α)
    (results : ResultSet α) : StateM (Session σ α) (Outcome × ResultSet α) := do
  if phrase.size < 2 then
    return (.skipped, results)
  phrase.terms.forM fun t => modify (·.report (.phraseTerm t.text))
  match settings.mode.pairing? with
  | none =>
    modify (·.report .dependencyUnset)
    return (.skipped, results)
  | some pairing =>
    Pass.run ⟨r, settings, pairing, phrase.terms.map PhraseTerm.weight⟩ phrase results

def reportEnd (r : Rescorer σ α) (o : Outcome) : StateM (Session σ α) Unit :=
  match o.status, o.failure with
  | .applied, _ => modify (·.report (.finished r.label o.altered))
  | _, some e => modify (·.report (.failed r.label e))
  | _, none => pure ()

/-- Rescores the results of a query under the settings that were read. No failure gets out of a
pass, and every stream of the phrase is closed behind it. -/
def run (r : Rescorer σ α) (reading : Except Settings.Fault (Settings α)) (source : Source)
    (query : Query α) (results : ResultSet α) :
    StateM (Session σ α) (Outcome × ResultSet α) := do
  match reading with
  | .error _ =>
    modify (·.report (.settingsRefused r.label))
    return (.skipped, results)
  | .ok settings =>
    modify (·.report (.started r.label settings.window))
    if (WeightRule.ofId? settings.rule).isNone then
      modify (·.report (.unknownRule settings.rule r.label))
    match ← (Phrase.ofQuery source query.filtered settings.splitSynonyms).run with
    | .error e =>
      let outcome := Outcome.ended 0 (some e)
      r.reportEnd outcome
      return (outcome, results)
    | .ok phrase =>
      let (outcome, results) ← r.runPhrase settings phrase results
      modify phrase.closeIn
      r.reportEnd outcome
      return (outcome, results)

def sumNeighbours (r : Rescorer σ α) (window : Int) :
    List ((Posting × Nat) × (Posting × Nat)) → α → SessionM σ α α
  | [], total => pure total
  | ((a, i), (b, j)) :: rest, total => do
    let score ← r.scorePair .adjacent window i (.ofPosting a) j (.ofPosting b)
    r.sumNeighbours window rest (total + score)

/-- The score of one document from a posting of each term: neighbours count in order and without
weights of their own, and nothing of an earlier pass is left in the scoring function. -/
def scoreDocument (r : Rescorer σ α) (reading : Except Settings.Fault (Settings α))
    (postings : List Posting) : SessionM σ α α := do
  let settings ← SessionM.ofExcept (reading.mapError .settings)
  r.function.prepare {
    context := .bare settings.window
    pairing := .adjacent
    collection := none }
  let total ← r.sumNeighbours settings.window (adjacentPairs postings.zipIdx) 0.0
  return settings.orderedWeight * total

end Rescorer

structure Reranking (α : Type) where
  retrieved : ResultSet α
  outcome : Outcome
  reranked : ResultSet α

def Reranking.run [LogScalar α] (ranker : BM25 α) (rescorer : Rescorer σ α)
    (reading : Except Settings.Fault (Settings α)) (candidates : Option Int)
    (query : List String) : StateM (Session σ α) (Reranking α) := do
  let retrieved := ranker.retrieve query candidates
  let (outcome, rescored) ←
    rescorer.run reading ranker.index.source (.ofTokens none query) retrieved
  return { retrieved := retrieved, outcome := outcome, reranked := rescored.sortByScore }

end ProximityRanking
