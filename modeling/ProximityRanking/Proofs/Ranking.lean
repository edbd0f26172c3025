import ProximityRanking.Metrics
import ProximityRanking.Proofs.DocumentScores
import ProximityRanking.Proofs.Doubles
import ProximityRanking.Proofs.Endings
import ProximityRanking.Proofs.LookUp
import ProximityRanking.Rescorer
/-!
Order in both stages. Candidates are retrieved in ranking order: by descending score, what is not a
number behind all else, and ties by ascending document. Rescoring keeps the rows or brings them into
document order, and sorting by score does not move what it cannot tell apart. So both stages end in
ranking order, and the second changes nothing where no row was sorted before.
-/
set_option autoImplicit false

namespace ProximityRanking

variable {σ : Type}

theorem pairwise_mergeSort_stable {β : Type} {le : β → β → Bool}
    (htrans : ∀ a b c, le a b = true → le b c = true → le a c = true)
    (htotal : ∀ a b, (le a b || le b a) = true) {R : β → β → Prop} {l : List β}
    (h : l.Pairwise R) :
    (l.mergeSort le).Pairwise fun a b => le a b = true ∧ (le b a = true → R a b) := by
  have hsorted := List.pairwise_mergeSort (List.zipIdxLE_trans htrans)
    (List.zipIdxLE_total htotal) l.zipIdx
  have hperm := List.mergeSort_perm l.zipIdx (List.zipIdxLE le)
  have hplaces : ((l.zipIdx.mergeSort (List.zipIdxLE le)).map Prod.snd).Nodup := by
    rw [(hperm.map Prod.snd).nodup_iff, List.zipIdx_map_snd]
    exact List.nodup_range'
  rw [← List.mergeSort_zipIdx, List.pairwise_map]
  refine (hsorted.and (List.pairwise_map.1 hplaces)).imp_of_mem ?_
  intro a b ha hb hab
  obtain ⟨a, i⟩ := a
  obtain ⟨b, j⟩ := b
  obtain ⟨hle, hne⟩ := hab
  have hi := List.mem_zipIdx_iff_getElem?.1 (hperm.mem_iff.1 ha)
  have hj := List.mem_zipIdx_iff_getElem?.1 (hperm.mem_iff.1 hb)
  simp only [List.zipIdxLE] at hle hne hi hj
  split at hle
  · rename_i hab
    refine ⟨hab, fun hba => ?_⟩
    rw [if_pos hba, decide_eq_true_iff] at hle
    obtain ⟨hi', rfl⟩ := List.getElem?_eq_some_iff.1 hi
    obtain ⟨hj', rfl⟩ := List.getElem?_eq_some_iff.1 hj
    exact List.pairwise_iff_getElem.1 h i j hi' hj' (by omega)
  · cases hle

/-- A row stands before another in a ranking: its score is larger, or is a number where the other is
none, or the scores are equal or both no numbers and its document comes first. -/
inductive Row.Precedes (a b : Row Float) : Prop where
  | score (h : b.score < a.score)
  | number (ha : Scalar.isUndefined a.score = false) (hb : Scalar.isUndefined b.score = true)
  | equal (h : (a.score == b.score) = true) (hdocid : a.docid < b.docid)
  | undefined (ha : Scalar.isUndefined a.score = true) (hb : Scalar.isUndefined b.score = true)
    (hdocid : a.docid < b.docid)

theorem Row.precedes_of_ranksBefore {a b : Row Float}
    (hab : Scalar.ranksBefore a.score b.score = true)
    (hba : Scalar.ranksBefore b.score a.score = true → a.docid < b.docid) : a.Precedes b := by
  rw [Binary64.ranksBefore_iff] at hab hba
  cases hb : Scalar.isUndefined b.score with
  | true =>
    cases ha : Scalar.isUndefined a.score with
    | true => exact .undefined ha hb (hba (.inl ha))
    | false => exact .number ha hb
  | false =>
    obtain ⟨ha, -, hle⟩ := hab.resolve_left (by simp [hb])
    rcases hle.lt_or_eq with hlt | heq
    · exact .score (Binary64.lt_iff.2 ⟨hb, ha, hlt⟩)
    · exact .equal (Binary64.beq_iff.2 ⟨ha, hb, heq.symm⟩) (hba (.inr ⟨hb, ha, heq.ge⟩))

namespace ResultSet

def Ranked (r : ResultSet Float) : Prop :=
  r.rows.Pairwise fun a b => Scalar.ranksBefore a.score b.score = true ∧
    (Scalar.ranksBefore b.score a.score = true → a.docid < b.docid)

variable {r r' : ResultSet Float}

theorem Ranked.precedes (h : r.Ranked) : r.rows.Pairwise Row.Precedes :=
  h.imp fun hab => Row.precedes_of_ranksBefore hab.1 hab.2

theorem Ranked.sortByScore_eq (h : r.Ranked) : r.sortByScore = r :=
  eq_of_rows_eq (List.mergeSort_of_pairwise (h.imp And.left))

theorem sortByScore_perm (r : ResultSet Float) : r.sortByScore.rows.Perm r.rows :=
  List.mergeSort_perm _ _

theorem Rescores.ranked_sortByScore (h : r'.Rescores r) : r'.sortByScore.Ranked := by
  refine pairwise_mergeSort_stable (fun a b c hab hbc => ?_) (fun a b => ?_) h.ascending
  · exact Binary64.ranksBefore_trans hab hbc
  · exact Binary64.ranksBefore_total a.score b.score

end ResultSet

namespace BM25

variable {α : Type} [LogScalar α] (r : BM25 α) (query : List String) (limit : Option Int)

theorem perm_ranking : (r.ranking query).Perm (r.scoreAll query).toList.zipIdx :=
  List.mergeSort_perm _ _

theorem pairwise_ranking
    (htrans : ∀ a b c : α, Scalar.ranksBefore a b = true → Scalar.ranksBefore b c = true →
      Scalar.ranksBefore a c = true)
    (htotal : ∀ a b : α, (Scalar.ranksBefore a b || Scalar.ranksBefore b a) = true) :
    (r.ranking query).Pairwise fun a b => Scalar.ranksBefore a.1 b.1 = true ∧
      (Scalar.ranksBefore b.1 a.1 = true → a.2 < b.2) :=
  pairwise_mergeSort_stable (fun a b c => htrans a.1 b.1 c.1) (fun a b => htotal a.1 b.1)
    (Index.pairwise_zipIdx _ 0)

theorem length_retrieve_le : (r.retrieve query limit).rows.length ≤ r.index.size := by
  have hsublist := (cut_sublist limit ((r.ranking query).filter fun e => 0.0 < e.1)).trans
    List.filter_sublist
  calc (r.retrieve query limit).rows.length
      = (cut limit ((r.ranking query).filter fun e => 0.0 < e.1)).length := List.length_map _
    _ ≤ (r.ranking query).length := hsublist.length_le
    _ = (r.scoreAll query).toList.zipIdx.length := (r.perm_ranking query).length_eq
    _ = r.index.size := by rw [List.length_zipIdx, Array.length_toList, size_scoreAll]

theorem ranked_retrieve (r : BM25 Float) : (r.retrieve query limit).Ranked := by
  have hranking := r.pairwise_ranking query (fun _ _ _ => Binary64.ranksBefore_trans)
    Binary64.ranksBefore_total
  refine List.pairwise_map.2 ((hranking.sublist ?_).imp fun hab => ⟨hab.1, fun hba => ?_⟩)
  · exact (cut_sublist limit _).trans List.filter_sublist
  · exact Int.ofNat_lt.2 (hab.2 hba)

end BM25

namespace Rescorer

variable {r : Rescorer σ Float} {reading : Except Settings.Fault (Settings Float)}
  {source : Source} {query : Query Float} {results results' : ResultSet Float} {outcome : Outcome}
  {s s' : Session σ Float}

/-- A run fails while its results are unsorted, before it comes to the documents. -/
def FailsUnsorted (r : Rescorer σ Float) (reading : Except Settings.Fault (Settings Float))
    (source : Source) (query : Query Float) (s : Session σ Float) : Prop :=
  ∃ settings pairing e, reading = .ok settings ∧ settings.mode.pairing? = some pairing ∧
    r.FailsEarly settings pairing source query s e

theorem results_eq_of_unsorted
    (hrun : r.run reading source query results s = ((outcome, results'), s'))
    (h : outcome.modified = false ∨ r.FailsUnsorted reading source query s) :
    results' = results := by
  rcases h with hmodified | ⟨settings, pairing, e, rfl, hmode, hfails⟩
  · by_cases hskips : r.Skips reading source query s
    · have hresults : (r.run reading source query results s).1 = (.skipped, results) :=
        run_of_skips hskips
      rw [hrun] at hresults
      exact congrArg Prod.snd hresults
    · obtain ⟨altered, failure, results₁, hended⟩ : ∃ altered failure results₁,
          (r.run reading source query results s).1 = (.ended altered failure, results₁) :=
        run_of_not_skips hskips
      rw [hrun] at hended
      obtain ⟨rfl, -⟩ := Prod.mk.inj hended
      cases failure <;> cases hmodified
  · have hresults := hfails.run_eq hmode results
    rw [hrun] at hresults
    exact congrArg Prod.snd hresults

theorem eq_or_rescores (hrun : r.run reading source query results s = ((outcome, results'), s')) :
    results' = results ∨ results'.Rescores results := by
  by_cases hskips : r.Skips reading source query s
  · have hresults : (r.run reading source query results s).1 = (.skipped, results) :=
      run_of_skips hskips
    rw [hrun] at hresults
    exact .inl (congrArg Prod.snd hresults)
  · obtain ⟨settings, rfl, hopened⟩ := begins_of_not_skips hskips
    have hresults : results' = (r.run (.ok settings) source query results s).1.2 := by rw [hrun]
    rcases hopened with ⟨e, s₁, hfails⟩ | ⟨pairing, phrase, s₁, hbegins⟩
    · rw [run_of_open_error hfails] at hresults
      exact .inl hresults
    · rcases hready : ((r.passOver settings pairing phrase).ready phrase).exec
        (phrase.announced s₁) with ⟨readying, s₂⟩
      cases readying with
      | error e =>
        have hpass := Pass.run_of_ready_error hready results
        rw [run_of_open_ok hbegins.opened hbegins.size hbegins.mode hpass] at hresults
        exact .inl hresults
      | ok streams =>
        obtain ⟨rescored, hpass, -, hrescores⟩ := Pass.run_of_ready_ok hready (Prod.eta _).symm
        rw [run_of_open_ok hbegins.opened hbegins.size hbegins.mode hpass] at hresults
        rw [hresults]
        exact .inr hrescores

end Rescorer

namespace Metrics

theorem reciprocalRank_beq_zero {relevant retrieved : List Int} (h : retrieved.length < 2 ^ 63) :
    ((reciprocalRank relevant retrieved : Float) == 0.0) = true ↔
      ∀ docid ∈ retrieved, docid ∉ relevant := by
  unfold reciprocalRank
  cases hfound : retrieved.findIdx? relevant.contains with
  | none =>
    have hnone := List.findIdx?_eq_none_iff.1 hfound
    exact iff_of_true (by decide) fun docid hdocid => by simpa using hnone docid hdocid
  | some place =>
    obtain ⟨hplace, hrelevant, -⟩ := List.findIdx?_eq_some_iff_getElem.1 hfound
    have hnonzero : (1.0 / Scalar.ofInt (place + 1) == (0.0 : Float)) = false :=
      Binary64.one_div_beq_zero (Binary64.isFinite_ofInt (by omega))
    refine iff_of_false (by simp [hnonzero]) fun hnone => ?_
    exact hnone _ (List.getElem_mem hplace) (by simpa using hrelevant)

end Metrics

/-- Both stages have the same candidates. The second one ends in ranking order, and is the first
one again if no scores were modified, or if the run failed before it sorted anything; all gains and
reciprocal ranks are the same then. They find something relevant for the same queries in any
case. -/
theorem Reranking.run_keeps_candidates [Table.Memory] (ranker : BM25 Float)
    (hsize : ranker.index.size < 2 ^ 63) (rescorer : Rescorer σ Float)
    (reading : Except Settings.Fault (Settings Float)) (candidates : Option Int)
    (query : List String) (s : Session σ Float) :
    ∃ result s', Reranking.run ranker rescorer reading candidates query s = (result, s') ∧
      result.retrieved = ranker.retrieve query candidates ∧
      (result.reranked.rows.map Row.fixed).Perm (result.retrieved.rows.map Row.fixed) ∧
      result.reranked.rows.Pairwise Row.Precedes ∧
      (result.outcome.modified = false ∨
          rescorer.FailsUnsorted reading ranker.index.source (.ofTokens none query) s →
        result.reranked = result.retrieved ∧ ∀ relevant,
          (∀ cutoff, (Metrics.ndcg relevant result.reranked.docids cutoff : Except Failure Float) =
            Metrics.ndcg relevant result.retrieved.docids cutoff) ∧
          (Metrics.reciprocalRank relevant result.reranked.docids : Float) =
            Metrics.reciprocalRank relevant result.retrieved.docids) ∧
      ∀ relevant, (Metrics.reciprocalRank relevant result.reranked.docids == (0.0 : Float)) =
        (Metrics.reciprocalRank relevant result.retrieved.docids == (0.0 : Float)) := by
  have hranked := ranker.ranked_retrieve query candidates
  have hlength := ranker.length_retrieve_le query candidates
  generalize hretrieved : ranker.retrieve query candidates = retrieved at hranked hlength
  rcases hrun : rescorer.run reading ranker.index.source (.ofTokens none query) retrieved s with
    ⟨⟨outcome, rescored⟩, s'⟩
  have hcases := Rescorer.eq_or_rescores hrun
  have hsorted : rescored.sortByScore.Ranked := by
    rcases hcases with rfl | hrescores
    · rwa [hranked.sortByScore_eq]
    · exact hrescores.ranked_sortByScore
  have hfixed : (rescored.sortByScore.rows.map Row.fixed).Perm (retrieved.rows.map Row.fixed) := by
    refine (rescored.sortByScore_perm.map Row.fixed).trans ?_
    rcases hcases with rfl | hrescores
    · exact .refl _
    · exact hrescores.fixed
  have hdocids : rescored.sortByScore.docids.Perm retrieved.docids := by
    have hperm := hfixed.map Prod.fst
    rwa [List.map_map, List.map_map] at hperm
  refine ⟨⟨retrieved, outcome, rescored.sortByScore⟩, s', ?_, rfl, hfixed, hsorted.precedes, ?_, ?_⟩
  · have heq : Reranking.run ranker rescorer reading candidates query s =
        (fun p => (⟨ranker.retrieve query candidates, p.1.1, p.1.2.sortByScore⟩, p.2))
          (rescorer.run reading ranker.index.source (.ofTokens none query)
            (ranker.retrieve query candidates) s) := rfl
    rw [heq, hretrieved, hrun]
  · intro h
    have hsame : rescored.sortByScore = retrieved := by
      rw [Rescorer.results_eq_of_unsorted hrun h, hranked.sortByScore_eq]
    simp only [hsame, implies_true, and_self]
  · intro relevant
    have hsmall : retrieved.docids.length < 2 ^ 63 := by
      rw [ResultSet.docids, List.length_map]
      omega
    have hsmall' : rescored.sortByScore.docids.length < 2 ^ 63 := by
      rwa [hdocids.length_eq]
    rw [Bool.eq_iff_iff, Metrics.reciprocalRank_beq_zero hsmall',
      Metrics.reciprocalRank_beq_zero hsmall]
    simp only [hdocids.mem_iff]

def Rescorer.unprepared : Rescorer Unit Float where
  function := ⟨"one", fun _ => throw .divisionByZero, fun _ _ => pure 1.0⟩
  counter := ⟨fun _ _ => .ok 1⟩

theorem Rescorer.failsUnsorted_unprepared :
    Rescorer.unprepared.FailsUnsorted (.ok .neighbours)
      (Index.ofDocuments [["a", "b"]] [] true).source (.ofTokens none ["a", "b"])
      (.start Float ()) := by
  obtain ⟨phrase, s₁, hopened, hopens, -⟩ := Phrase.exec_ofQuery
    (Index.ofDocuments [["a", "b"]] [] true) (Query.ofTokens none ["a", "b"] : Query Float).filtered
    true (Rescorer.unprepared.begun .neighbours (.start Float ()))
  rw [openTerms_twoWords] at hopens
  have hsize : 2 ≤ phrase.size := by
    rw [hopens.size_eq]
    decide
  obtain ⟨average, haverage⟩ : ∃ average : Float,
      phrase.source.statistics.averageWindows? Settings.neighbours.window = some average := by
    rw [hopens.statistics_eq]
    exact Statistics.exists_averageWindows? (by decide) (by decide) (by decide)
  exact ⟨.neighbours, .adjacent, .divisionByZero, rfl, rfl, .preparation hopened hsize haverage rfl⟩

attribute [local instance] Table.Memory.large

theorem Reranking.run_keeps_candidates_unprepared :
    ∃ result s', Reranking.run (.standard (Index.ofDocuments [["a", "b"]] [] true))
        Rescorer.unprepared (.ok .neighbours) none ["a", "b"] (.start Float ()) = (result, s') ∧
      result.reranked = result.retrieved := by
  obtain ⟨result, s', hrun, -, -, -, hsame, -⟩ := Reranking.run_keeps_candidates
    (.standard (Index.ofDocuments [["a", "b"]] [] true)) (by decide) Rescorer.unprepared
    (.ok .neighbours) none ["a", "b"] (.start Float ())
  exact ⟨result, s', hrun, (hsame (.inr Rescorer.failsUnsorted_unprepared)).1⟩

end ProximityRanking
