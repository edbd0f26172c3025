import ProximityRanking.Proofs.Ranking
/-!
Sorted result sets. A sort works out the order of one column and takes every column in that order,
so rows stay together whatever sorts come one after the other. Rows that a sort does not tell apart
stay in order; documents are all told apart, so what comes of a sort by document depends on the rows
alone.
-/
set_option autoImplicit false

namespace ProximityRanking

variable {α β γ δ : Type}

def placesInOrder (le : γ → γ → Bool) (column : List γ) : List Nat :=
  (column.zipIdx.mergeSort fun a b => le a.1 b.1).map Prod.snd

def takePlaces (column : List γ) (places : List Nat) : List γ :=
  places.filterMap (column[·]?)

theorem placesInOrder_perm (le : γ → γ → Bool) (column : List γ) :
    (placesInOrder le column).Perm (List.range column.length) := by
  have hperm := (List.mergeSort_perm column.zipIdx fun a b => le a.1 b.1).map Prod.snd
  rwa [List.zipIdx_map_snd, ← List.range_eq_range'] at hperm

theorem map_mergeSort_eq_takePlaces (le : γ → γ → Bool) (key : β → γ) (f : β → δ) (l : List β) :
    (l.mergeSort fun a b => le (key a) (key b)).map f =
      takePlaces (l.map f) (placesInOrder le (l.map key)) := by
  generalize hsorted : l.zipIdx.mergeSort (fun a b => le (key a.1) (key b.1)) = sorted
  have hrows : l.mergeSort (fun a b => le (key a) (key b)) = sorted.map Prod.fst := by
    rw [← hsorted, List.map_mergeSort (s := fun a b => le (key a) (key b)) (fun _ _ _ _ => rfl),
      List.zipIdx_map_fst]
  have hplaces : placesInOrder le (l.map key) = sorted.map Prod.snd := by
    have hkeys := List.map_mergeSort (r := fun a b : β × Nat => le (key a.1) (key b.1))
      (s := fun a b : γ × Nat => le a.1 b.1) (f := Prod.map key id) (l := l.zipIdx)
      fun _ _ _ _ => rfl
    rw [placesInOrder, List.zipIdx_map, ← hkeys, hsorted, List.map_map]
    rfl
  rw [hrows, hplaces, takePlaces, List.filterMap_map, List.map_map, ← List.filterMap_eq_map]
  refine List.filterMap_congr fun e he => ?_
  have hmem : e ∈ l.zipIdx := by
    rw [← hsorted] at he
    exact (List.mergeSort_perm _ _).mem_iff.1 he
  simp [List.mem_zipIdx_iff_getElem?.1 hmem]

theorem filter_mergeSort {le : β → β → Bool} {p : β → Bool}
    (htrans : ∀ a b c, le a b = true → le b c = true → le a c = true)
    (htotal : ∀ a b, (le a b || le b a) = true)
    (hp : ∀ a b, p a = true → p b = true → le a b = true) (l : List β) :
    (l.mergeSort le).filter p = l.filter p := by
  have htied : (l.filter p).Pairwise fun a b => le a b = true := by
    refine List.pairwise_of_forall_mem_list fun a ha b hb => ?_
    exact hp a b (List.mem_filter.1 ha).2 (List.mem_filter.1 hb).2
  have hsub := (List.sublist_mergeSort htrans htotal htied List.filter_sublist).filter p
  rw [List.filter_filter] at hsub
  simp only [Bool.and_self] at hsub
  exact (hsub.eq_of_length ((List.mergeSort_perm l le).filter p).length_eq.symm).symm

namespace ResultSet

theorem scoreOf_of_not_mem (r : ResultSet α) {docid : Int} (h : docid ∉ r.docids) :
    r.scoreOf docid = .error (.unknownDocid docid) := by
  have hnone : r.rows.find? (·.docid == docid) = none := by
    refine List.find?_eq_none.2 fun row hrow hdocid => h ?_
    exact beq_iff_eq.1 hdocid ▸ List.mem_map_of_mem hrow
  rw [scoreOf, hnone]

theorem scoreOf_eq_of_perm {r r' : ResultSet α} (h : r'.rows.Perm r.rows) (docid : Int) :
    r'.scoreOf docid = r.scoreOf docid := by
  by_cases hdocid : docid ∈ r.docids
  · obtain ⟨row, hrow, rfl⟩ := List.mem_map.1 hdocid
    rw [r.scoreOf_of_mem hrow, r'.scoreOf_of_mem (h.mem_iff.2 hrow)]
  · have hdocid' : docid ∉ r'.docids := fun hmem => hdocid ((h.map Row.docid).mem_iff.1 hmem)
    rw [r.scoreOf_of_not_mem hdocid, r'.scoreOf_of_not_mem hdocid']

theorem sortByDocid_eq_of_perm {r r' : ResultSet α} (h : r'.rows.Perm r.rows) :
    r'.sortByDocid = r.sortByDocid := by
  refine eq_of_rows_eq (List.Perm.eq_of_pairwise ?_ r'.pairwise_sortByDocid
    r.pairwise_sortByDocid ((r'.sortByDocid_perm.trans h).trans r.sortByDocid_perm.symm))
  intro a b _ _ hab hba
  omega

inductive SortKey where
  | docid
  | score

def SortKey.before : SortKey → Row Float → Row Float → Bool
  | .docid => fun a b => a.docid ≤ b.docid
  | .score => fun a b => Scalar.ranksBefore a.score b.score

def sortBy (r : ResultSet Float) : SortKey → ResultSet Float
  | .docid => r.sortByDocid
  | .score => r.sortByScore

def placesBy (r : ResultSet Float) : SortKey → List Nat
  | .docid => placesInOrder (· ≤ ·) r.docids
  | .score => placesInOrder Scalar.ranksBefore (r.rows.map Row.score)

def sortAll (r : ResultSet Float) (keys : List SortKey) : ResultSet Float :=
  keys.foldl sortBy r

namespace SortKey

variable (key : SortKey)

theorem before_trans (a b c : Row Float) (hab : key.before a b = true)
    (hbc : key.before b c = true) : key.before a c = true := by
  cases key with
  | docid => simp [before] at *; omega
  | score => exact Binary64.ranksBefore_trans hab hbc

theorem before_total (a b : Row Float) : (key.before a b || key.before b a) = true := by
  cases key with
  | docid => simp [before]; omega
  | score => exact Binary64.ranksBefore_total a.score b.score

end SortKey

variable (r : ResultSet Float) (key : SortKey)

theorem rows_sortBy : (r.sortBy key).rows = r.rows.mergeSort key.before := by
  cases key <;> rfl

theorem sortBy_perm : (r.sortBy key).rows.Perm r.rows := by
  rw [rows_sortBy]
  exact List.mergeSort_perm _ _

theorem sortAll_perm (keys : List SortKey) : (r.sortAll keys).rows.Perm r.rows := by
  induction keys generalizing r with
  | nil => exact .refl _
  | cons key keys ih => exact (ih (r.sortBy key)).trans (r.sortBy_perm key)

theorem sortBy_sortBy : (r.sortBy key).sortBy key = r.sortBy key := by
  refine eq_of_rows_eq ?_
  rw [rows_sortBy, rows_sortBy]
  exact List.mergeSort_of_pairwise (List.pairwise_mergeSort key.before_trans key.before_total _)

theorem map_sortBy (f : Row Float → β) :
    (r.sortBy key).rows.map f = takePlaces (r.rows.map f) (r.placesBy key) := by
  cases key with
  | docid => exact map_mergeSort_eq_takePlaces (· ≤ ·) Row.docid f r.rows
  | score => exact map_mergeSort_eq_takePlaces Scalar.ranksBefore Row.score f r.rows

theorem placesBy_perm : (r.placesBy key).Perm (List.range r.size) := by
  cases key with
  | docid => simpa [placesBy, docids, size] using placesInOrder_perm (· ≤ ·) r.docids
  | score =>
    simpa [placesBy, size] using placesInOrder_perm Scalar.ranksBefore (r.rows.map Row.score)

theorem filter_sortByScore {p : Row Float → Bool}
    (hp : ∀ a b, p a = true → p b = true → Scalar.ranksBefore a.score b.score = true) :
    (r.sortBy .score).rows.filter p = r.rows.filter p :=
  filter_mergeSort (SortKey.before_trans .score) (SortKey.before_total .score) hp r.rows

theorem ranksBefore_of_beq {x y z : Float} (hx : (x == z) = true) (hy : (y == z) = true) :
    Scalar.ranksBefore x y = true := by
  obtain ⟨hx, -, hxz⟩ := Binary64.beq_iff.1 hx
  obtain ⟨hy, -, hyz⟩ := Binary64.beq_iff.1 hy
  exact Binary64.ranksBefore_iff.2 (.inr ⟨hx, hy, (hyz.trans hxz.symm).le⟩)

/-- What a sort does with the rows that it finds. -/
structure Sorts (r : ResultSet Float) : Prop where
  columns : ∀ key, (r.placesBy key).Perm (List.range r.size) ∧
    (r.sortBy key).docids = takePlaces r.docids (r.placesBy key) ∧
    (r.sortBy key).rows.map Row.score = takePlaces (r.rows.map Row.score) (r.placesBy key) ∧
    (r.sortBy key).rows.map Row.occurrences =
      takePlaces (r.rows.map Row.occurrences) (r.placesBy key)
  ascending : (r.sortBy .docid).rows.Pairwise fun a b => a.docid < b.docid
  /-- No row stands behind one that is no number, unless it is none either, or behind one with a
  smaller score. -/
  descending : (r.sortBy .score).rows.Pairwise fun a b =>
    Scalar.isUndefined b.score = true ∨ b.score ≤ a.score
  equal : ∀ x, (r.sortBy .score).rows.filter (·.score == x) = r.rows.filter (·.score == x)
  undefined : (r.sortBy .score).rows.filter (fun row => Scalar.isUndefined row.score) =
    r.rows.filter fun row => Scalar.isUndefined row.score
  idempotent : ∀ key, (r.sortBy key).sortBy key = r.sortBy key

theorem sorts : r.Sorts where
  columns key := ⟨r.placesBy_perm key, r.map_sortBy key Row.docid, r.map_sortBy key Row.score,
    r.map_sortBy key Row.occurrences⟩
  ascending := r.pairwise_sortByDocid
  descending := by
    have hsorted := List.pairwise_mergeSort (SortKey.before_trans .score)
      (SortKey.before_total .score) r.rows
    refine hsorted.imp fun hab => ?_
    simpa [SortKey.before, Scalar.ranksBefore] using hab
  equal x := r.filter_sortByScore fun _ _ => ranksBefore_of_beq
  undefined := r.filter_sortByScore fun _ _ _ hb => Binary64.ranksBefore_iff.2 (.inl hb)
  idempotent := r.sortBy_sortBy

/-- After any sorts the rows are the same, each as it was, and every document has its score. A sort
by document puts them in strict order of the documents, and one by score in descending order with
what is no number at the end; what ranks alike stays in order. Both sorts in turn give the same for
any order of the rows. -/
theorem sortAll_moves_rows (keys : List SortKey) :
    (r.sortAll keys).rows.Perm r.rows ∧
      (∀ docid, (r.sortAll keys).scoreOf docid = r.scoreOf docid) ∧ (r.sortAll keys).Sorts ∧
      ∀ r' : ResultSet Float, r'.rows.Perm r.rows →
        (r'.sortBy .docid).sortBy .score = ((r.sortAll keys).sortBy .docid).sortBy .score := by
  have hperm := r.sortAll_perm keys
  refine ⟨hperm, scoreOf_eq_of_perm hperm, (r.sortAll keys).sorts, fun r' h => ?_⟩
  have hdocid : r'.sortBy .docid = (r.sortAll keys).sortBy .docid :=
    sortByDocid_eq_of_perm (h.trans hperm.symm)
  rw [hdocid]

end ResultSet
end ProximityRanking
