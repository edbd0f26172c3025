import Mathlib.Data.List.Nodup
import ProximityRanking.ResultSet
/-!
Rows in document order. A pass sorts the rows and gives them new scores; what else is in a row stays
together.
-/
set_option autoImplicit false

namespace ProximityRanking

variable {α : Type}

def Row.fixed (row : Row α) : Int × Int16 :=
  (row.docid, row.occurrences)

namespace ResultSet

/-- The rows of another result set in document order, with scores of their own. -/
structure Rescores (r' r : ResultSet α) : Prop where
  ascending : r'.rows.Pairwise fun a b => a.docid < b.docid
  fixed : (r'.rows.map Row.fixed).Perm (r.rows.map Row.fixed)

theorem eq_of_rows_eq {r' r : ResultSet α} (h : r'.rows = r.rows) : r' = r := by
  cases r'
  cases r
  cases h
  rfl

theorem scoreOf_of_mem (r : ResultSet α) {row : Row α} (h : row ∈ r.rows) :
    r.scoreOf row.docid = .ok row.score := by
  unfold scoreOf
  cases hfound : r.rows.find? (·.docid == row.docid) with
  | none =>
    have hnone := List.find?_eq_none.1 hfound row h
    simp at hnone
  | some row' =>
    have hdocid : row'.docid = row.docid := by simpa using List.find?_some hfound
    rw [List.inj_on_of_nodup_map r.nodup_docids (List.mem_of_find?_eq_some hfound) h hdocid]

theorem sortByDocid_perm (r : ResultSet α) : r.sortByDocid.rows.Perm r.rows :=
  List.mergeSort_perm _ _

theorem pairwise_sortByDocid (r : ResultSet α) :
    r.sortByDocid.rows.Pairwise fun a b => a.docid < b.docid := by
  have hle : r.sortByDocid.rows.Pairwise fun a b => decide (a.docid ≤ b.docid) = true := by
    refine List.pairwise_mergeSort (fun a b c hab hbc => ?_) (fun a b => ?_) r.rows
    · have hab := of_decide_eq_true hab
      have hbc := of_decide_eq_true hbc
      exact decide_eq_true (by omega)
    · rw [Bool.or_eq_true, decide_eq_true_iff, decide_eq_true_iff]
      omega
  have hne := List.pairwise_map.1 r.sortByDocid.nodup_docids
  refine (hle.and hne).imp fun ⟨hab, hne⟩ => ?_
  have hab := of_decide_eq_true hab
  omega

theorem rescores_of_map_fixed {r' r : ResultSet α}
    (h : r'.rows.map Row.fixed = r.sortByDocid.rows.map Row.fixed) : r'.Rescores r := by
  constructor
  · have hsorted := r.pairwise_sortByDocid
    have hdocids : r'.rows.map Row.docid = r.sortByDocid.rows.map Row.docid := by
      have hfst := congrArg (List.map Prod.fst) h
      rw [List.map_map, List.map_map] at hfst
      exact hfst
    rw [← List.pairwise_map (f := Row.docid) (R := (· < ·)), hdocids, List.pairwise_map]
    exact hsorted
  · rw [h]
    exact r.sortByDocid_perm.map Row.fixed

end ResultSet
end ProximityRanking
