import Mathlib.Algebra.BigOperators.Ring.List
import Mathlib.Data.Real.Basic
import Mathlib.Tactic.NormNum
import Mathlib.Tactic.Ring
import ProximityRanking.Proofs.DocumentScores
/-!
Scores in exact arithmetic. Over the real numbers the score of a document is a sum over the tokens
of the query with their repetitions, in which a token is worth the same in every query. So queries
may be taken apart and their tokens exchanged.
-/
set_option autoImplicit false

namespace ProximityRanking

noncomputable instance Scalar.real : Scalar ℝ where
  decLT := inferInstance
  decLE := inferInstance
  isFinite _ := true
  ofInt n := n
  ofRatio n d := n / d

/-- The logarithms that come with exact arithmetic, which may be any functions. -/
class RealLogs where
  log : ℝ → ℝ
  log2 : ℝ → ℝ
  lnGamma : ℝ → ℝ

noncomputable instance LogScalar.real [RealLogs] : LogScalar ℝ where
  log := RealLogs.log
  log2 := RealLogs.log2
  lnGamma := RealLogs.lnGamma

theorem Scalar.real_zero : (0.0 : ℝ) = 0 := by
  norm_num

theorem Scalar.real_one : (1.0 : ℝ) = 1 := by
  norm_num

theorem foldl_add_real (l : List ℝ) : l.foldl (· + ·) 0.0 = l.sum := by
  rw [Scalar.real_zero, List.sum_eq_foldl]

namespace BM25

variable [RealLogs] (r : BM25 ℝ)

noncomputable def tokenWorth (d : Nat) (token : String) : ℝ :=
  (((r.index.postingsOf token).toList.filter (·.docid.toNat = d)).map fun p =>
    r.idf token * r.saturate p.frequency p.length.toNat).sum

theorem total_eq_sum (query : List String) (d : Nat) :
    r.total query d = (query.map (r.tokenWorth d)).sum := by
  have htoken : ∀ token, ((((r.index.postingsOf token).toList.map (token, ·)).filter
      (·.2.docid.toNat = d)).map (r.worth query)).sum =
        (query.count token : ℝ) * r.tokenWorth d token := by
    intro token
    rw [List.filter_map, List.map_map, tokenWorth, ← List.sum_map_mul_left]
    refine congrArg List.sum (List.map_congr_left fun p _ => ?_)
    exact mul_assoc _ _ _
  unfold total Index.hitsAt Index.hits
  rw [foldl_add_real, List.filter_flatMap, List.map_flatMap, List.flatMap_def, List.sum_flatten,
    List.map_map]
  simp only [Function.comp_def, htoken, ← nsmul_eq_mul]
  exact Index.sum_eraseDups_count_nsmul query (r.tokenWorth d)

theorem total_append (q₁ q₂ : List String) (d : Nat) :
    r.total (q₁ ++ q₂) d = r.total q₁ d + r.total q₂ d := by
  simp only [total_eq_sum, List.map_append, List.sum_append]

theorem total_replicate (m : Nat) (token : String) (d : Nat) :
    r.total (List.replicate m token) d = m * r.total [token] d := by
  simp only [total_eq_sum, List.map_replicate, List.sum_replicate, nsmul_eq_mul, List.map_cons,
    List.map_nil, List.sum_singleton]

theorem toList_scoreAll_eq_zipWith {f : ℝ → ℝ → ℝ} {query q₁ q₂ : List String}
    (h : ∀ d, r.total query d = f (r.total q₁ d) (r.total q₂ d)) :
    (r.scoreAll query).toList = List.zipWith f (r.scoreAll q₁).toList (r.scoreAll q₂).toList := by
  refine List.ext_getElem? fun d => ?_
  rw [List.getElem?_zipWith]
  simp only [Array.getElem?_toList, getElem?_scoreAll, h d]
  split <;> rfl

/-- Scores are additive in the query: they are added document by document when queries are
concatenated. So a query scores the same in any order, and a token that is repeated adds what it is
worth each time. -/
theorem scoreAll_additive :
    (∀ q₁ q₂, (r.scoreAll (q₁ ++ q₂)).toList =
        List.zipWith (· + ·) (r.scoreAll q₁).toList (r.scoreAll q₂).toList) ∧
      (∀ q₁ q₂, q₁.Perm q₂ → r.scoreAll q₁ = r.scoreAll q₂) ∧
      ∀ (query : List String) (m : Nat) (token : String),
        (r.scoreAll (query ++ List.replicate m token)).toList =
          List.zipWith (fun score worth : ℝ => score + m * worth) (r.scoreAll query).toList
            (r.scoreAll [token]).toList := by
  refine ⟨fun q₁ q₂ => ?_, fun q₁ q₂ h => ?_, fun query m token => ?_⟩
  · exact r.toList_scoreAll_eq_zipWith (r.total_append q₁ q₂)
  · have htotal : r.total q₁ = r.total q₂ := by
      funext d
      rw [total_eq_sum, total_eq_sum, (h.map (r.tokenWorth d)).sum_eq]
    refine Array.ext_getElem? fun d => ?_
    rw [getElem?_scoreAll, getElem?_scoreAll, htotal]
  · refine r.toList_scoreAll_eq_zipWith fun d => ?_
    rw [total_append, total_replicate]

end BM25
end ProximityRanking
