import Mathlib.Algebra.Order.BigOperators.Group.List
import Mathlib.Analysis.SpecialFunctions.Gamma.Basic
import Mathlib.Analysis.SpecialFunctions.Log.Base
import Mathlib.Data.List.DropRight
import ProximityRanking.Proofs.ExactScores
import ProximityRanking.Proofs.Ranking
/-!
What is retrieved. With exact arithmetic and a logarithm that is positive above one, every share of
a score is positive. So a document has a positive score exactly when it has a token of the query,
these documents lead the ranking, and the test for a positive score keeps them and no others.
-/
set_option autoImplicit false

namespace ProximityRanking

variable {α β : Type}

theorem cut_natCast (n : Nat) (l : List β) : cut (some (n : Int)) l = l.take n := by
  have hn : ¬ (n : Int) < 0 := by omega
  simp only [cut, if_neg hn, Int.toNat_natCast]

theorem cut_neg {n : Nat} (hn : 0 < n) (l : List β) : cut (some (-(n : Int))) l = l.rdrop n := by
  have hneg : -(n : Int) < 0 := by omega
  have hlength : ((l.length : Int) + -(n : Int)).toNat = l.length - n := by omega
  simp only [cut, if_pos hneg, hlength, List.rdrop]

theorem cut_map {γ : Type} (limit : Option Int) (f : β → γ) (l : List β) :
    cut limit (l.map f) = (cut limit l).map f := by
  unfold cut
  split
  · rfl
  · rw [List.length_map, List.map_take]

theorem filter_leads {p : β → Bool} {l : List β}
    (h : l.Pairwise fun a b => p b = true → p a = true) : l.filter p <+: l := by
  induction l with
  | nil => exact List.prefix_refl []
  | cons a l ih =>
    obtain ⟨ha, hl⟩ := List.pairwise_cons.1 h
    by_cases hpa : p a = true
    · rw [List.filter_cons_of_pos hpa]
      exact (List.prefix_cons_inj a).2 (ih hl)
    · have hnone : l.filter p = [] := List.filter_eq_nil_iff.2 fun b hb hpb => hpa (ha b hb hpb)
      rw [List.filter_cons_of_neg hpa, hnone]
      exact List.nil_prefix

def hasToken (query document : List String) : Bool :=
  query.any (document.contains ·)

theorem hasToken_iff {query document : List String} :
    hasToken query document = true ↔ ∃ token ∈ query, token ∈ document := by
  simp only [hasToken, List.any_eq_true, List.contains_iff_mem]

namespace BM25

variable (r : BM25 α)

theorem matchCounts_eq_foldl (query : List String) :
    r.matchCounts query = (r.index.hits query).foldl
      (fun counts hit => counts.modify hit.2.docid.toNat (· + 1))
      (Array.replicate r.index.size 0) := by
  unfold matchCounts
  rw [Roster.keys_tally]
  exact (r.index.foldl_hits query (fun (counts : Array Nat) hit =>
    counts.modify hit.2.docid.toNat (· + 1)) _).symm

theorem getElem?_matchCounts (query : List String) (d : Nat) :
    (r.matchCounts query)[d]? =
      if d < r.index.size then some (r.index.hitsAt query d).length else none := by
  have hcount : ∀ (hits : List (String × Posting)) (n : Nat),
      hits.foldl (fun n _ => n + 1) n = n + hits.length := by
    intro hits n
    induction hits generalizing n with
    | nil => rfl
    | cons hit hits ih => rw [List.foldl_cons, ih, List.length_cons]; omega
  rw [matchCounts_eq_foldl, getElem?_foldl_modify, Array.getElem?_replicate]
  split
  · rw [Option.map_some, hcount, Nat.zero_add]
    rfl
  · rfl

theorem matchCounts_ofDocuments {documents : List (List String)} (ids : List String)
    (positional : Bool) (k₁ b : α) {document : List String} {d : Nat}
    (h : documents[d]? = some document) (query : List String) :
    ((ofDocuments documents ids positional k₁ b).matchCounts query)[d]? =
      some (query.eraseDups.countP (· ∈ document)) := by
  obtain ⟨hd, -⟩ := List.getElem?_eq_some_iff.1 h
  rw [getElem?_matchCounts, size_ofDocuments, if_pos hd, ofDocuments, Index.hitsAt_ofDocuments h,
    List.length_map, List.countP_eq_length_filter]

end BM25

@[reducible] noncomputable def RealLogs.natural : RealLogs where
  log := Real.log
  log2 := Real.logb 2
  lnGamma x := Real.log |Real.Gamma x|

theorem Scalar.le_greatest_right (a b : ℝ) : b ≤ Scalar.greatest a b := by
  unfold Scalar.greatest
  split
  · exact le_refl b
  · rename_i h
    exact not_lt.1 h

theorem Scalar.ranksBefore_real {a b : ℝ} : Scalar.ranksBefore a b = true ↔ b ≤ a := by
  have hdefined : Scalar.isUndefined b = false := by
    unfold Scalar.isUndefined
    rw [Bool.not_eq_false']
    exact decide_eq_true rfl
  rw [Scalar.ranksBefore, hdefined, Bool.false_or, decide_eq_true_iff]

namespace Formula

variable [RealLogs] {documents : List (List String)} {k₁ b : ℝ} {query document : List String}
  (hlog : ∀ x : ℝ, 1 < x → 0 < LogScalar.log x) (hk₁ : 0 ≤ k₁)

include hlog

theorem rarity_pos (documents : List (List String)) (term : String) :
    (0 : ℝ) < rarity documents term := by
  have hdf : (documentFrequency documents term : ℝ) ≤ documents.length := by
    exact_mod_cast List.countP_le_length
  have hodds : (0 : ℝ) < (((documents.length - documentFrequency documents term : ℤ) : ℝ) + 0.5) /
      (((documentFrequency documents term : ℤ) : ℝ) + 0.5) := by
    push_cast
    exact div_pos (by linarith) (by positivity)
  refine hlog _ ?_
  calc (1 : ℝ) = 0 + 1.0 := by norm_num
    _ < _ := add_lt_add_left hodds 1.0

include hk₁

theorem share_pos {token : String} (hquery : token ∈ query) (hterm : token ∈ document) :
    0 < share documents k₁ b query document token := by
  have hcount : (0 : ℝ) < Scalar.ofInt (query.count token) :=
    Int.cast_pos.2 (Int.natCast_pos.2 (List.count_pos_iff.2 hquery))
  have htf : (0 : ℝ) < Scalar.ofInt (document.count token) :=
    Int.cast_pos.2 (Int.natCast_pos.2 (List.count_pos_iff.2 hterm))
  have hsaturation : (0 : ℝ) < k₁ + 1.0 := by
    linarith
  have hdivisor : ∀ x : ℝ, 0 < Scalar.greatest x 1.0e-9 := by
    intro x
    exact lt_of_lt_of_le (by norm_num) (Scalar.le_greatest_right x 1.0e-9)
  exact mul_pos (mul_pos hcount (rarity_pos hlog documents token))
    (div_pos (mul_pos htf hsaturation) (hdivisor _))

theorem score_pos_iff :
    0 < score documents k₁ b query document ↔ hasToken query document = true := by
  rw [hasToken_iff]
  constructor
  · intro hpos
    by_contra hnone
    rw [score_of_no_token documents k₁ b fun token hquery hterm => hnone ⟨token, hquery, hterm⟩,
      Scalar.real_zero] at hpos
    exact lt_irrefl 0 hpos
  · rintro ⟨token, hquery, hterm⟩
    rw [score, foldl_add_real]
    refine List.sum_pos _ ?_ ?_
    · intro x hx
      obtain ⟨token', htoken', rfl⟩ := List.mem_map.1 hx
      obtain ⟨hquery', hterm'⟩ := List.mem_filter.1 htoken'
      exact share_pos hlog hk₁ (List.mem_eraseDups.1 hquery') (by simpa using hterm')
    · have hmem : token ∈ query.eraseDups.filter (· ∈ document) :=
        List.mem_filter.2 ⟨List.mem_eraseDups.2 hquery, by simpa using hterm⟩
      exact List.ne_nil_of_mem (List.mem_map_of_mem hmem)

end Formula

/-- A list under every limit is the beginning of the full list, or for a negative limit what is left
without as many elements at the end. -/
def SlicesOf (full : List β) (limited : Int → List β) : Prop :=
  ∀ n : Nat, limited n = full.take n ∧ (0 < n → limited (-n) = full.rdrop n)

theorem slicesOf_cut (full : List β) : SlicesOf full fun limit => cut (some limit) full :=
  fun n => ⟨cut_natCast n full, fun hn => cut_neg hn full⟩

namespace BM25

def isMatch (documents : List (List String)) (query : List String) (e : ℝ × Nat) : Bool :=
  documents[e.2]?.any (hasToken query)

variable [RealLogs]

/-- What a ranker finds among documents. -/
structure Finds (r : BM25 ℝ) (documents : List (List String)) (query : List String) : Prop where
  everyDocument : ((r.rank query none).map Prod.snd).Perm (List.range documents.length)
  score : ∀ e ∈ r.rank query none, (r.scoreAll query)[e.2]? = some e.1
  order : (r.rank query none).Pairwise fun a b => b.1 < a.1 ∨ a.1 = b.1 ∧ a.2 < b.2
  /-- The matching documents lead the ranking, and they are what is retrieved. -/
  leads : (r.rank query none).filter (isMatch documents query) <+: r.rank query none
  retrieved : (r.retrieve query none).rows.map (fun row => (row.score, row.docid)) =
    ((r.rank query none).filter (isMatch documents query)).map fun e => (e.1, (e.2 : Int))
  limitedRank : SlicesOf (r.rank query none) fun limit => r.rank query (some limit)
  limitedRows : SlicesOf (r.retrieve query none).rows fun limit =>
    (r.retrieve query (some limit)).rows
  /-- The distinct tokens of the query are counted in 16 bits, so up to the largest number of these
  the count is right. -/
  occurrences : ∀ limit, ∀ row ∈ (r.retrieve query limit).rows,
    ∃ (d : Nat) (document : List String), row.docid = d ∧ documents[d]? = some document ∧
      row.occurrences = Int16.ofNat (query.eraseDups.countP (· ∈ document)) ∧
      (query.eraseDups.countP (· ∈ document) ≤ 32767 →
        row.occurrences.toInt = query.eraseDups.countP (· ∈ document))

theorem rows_retrieve (r : BM25 ℝ) (query : List String) (limit : Option Int) :
    (r.retrieve query limit).rows = cut limit (r.retrieve query none).rows :=
  (cut_map limit _ _).symm

theorem getElem?_scoreAll_of_mem_ranking {r : BM25 ℝ} {query : List String} {e : ℝ × Nat}
    (he : e ∈ r.ranking query) : (r.scoreAll query)[e.2]? = some e.1 := by
  have hplace := List.mem_zipIdx_iff_getElem?.1 ((r.perm_ranking query).mem_iff.1 he)
  rwa [Array.getElem?_toList] at hplace

theorem ordered_ranking (r : BM25 ℝ) (query : List String) :
    (r.ranking query).Pairwise fun a b => b.1 < a.1 ∨ a.1 = b.1 ∧ a.2 < b.2 := by
  have htrans : ∀ a b c : ℝ, Scalar.ranksBefore a b = true → Scalar.ranksBefore b c = true →
      Scalar.ranksBefore a c = true := by
    intro a b c hab hbc
    rw [Scalar.ranksBefore_real] at hab hbc ⊢
    exact hbc.trans hab
  have htotal : ∀ a b : ℝ, (Scalar.ranksBefore a b || Scalar.ranksBefore b a) = true := by
    intro a b
    rw [Bool.or_eq_true, Scalar.ranksBefore_real, Scalar.ranksBefore_real]
    exact le_total b a
  refine (r.pairwise_ranking query htrans htotal).imp fun {a b} hab => ?_
  simp only [Scalar.ranksBefore_real] at hab
  rcases hab.1.lt_or_eq with hlt | heq
  · exact .inl hlt
  · exact .inr ⟨heq.symm, hab.2 heq.ge⟩

variable {documents : List (List String)} (ids : List String) (positional : Bool) {k₁ : ℝ} (b : ℝ)

theorem perm_range_ranking (query : List String) :
    (((ofDocuments documents ids positional k₁ b).ranking query).map Prod.snd).Perm
      (List.range documents.length) := by
  refine ((perm_ranking _ query).map Prod.snd).trans (.of_eq ?_)
  rw [List.zipIdx_map_snd, Array.length_toList, size_scoreAll, size_ofDocuments,
    List.range_eq_range']

theorem occurrences_retrieve {query : List String} {limit : Option Int} {row : Row ℝ}
    (hrow : row ∈ ((ofDocuments documents ids positional k₁ b).retrieve query limit).rows) :
    ∃ (d : Nat) (document : List String), row.docid = d ∧ documents[d]? = some document ∧
      row.occurrences = Int16.ofNat (query.eraseDups.countP (· ∈ document)) := by
  obtain ⟨e, he, rfl⟩ := List.mem_map.1 hrow
  have hranked := List.mem_of_mem_filter ((cut_sublist limit _).subset he)
  have hd := (perm_range_ranking ids positional b query).mem_iff.1 (List.mem_map_of_mem hranked)
  rw [List.mem_range] at hd
  refine ⟨e.2, documents[e.2], rfl, List.getElem?_eq_getElem hd, ?_⟩
  have hcount := matchCounts_ofDocuments ids positional k₁ b (List.getElem?_eq_getElem hd) query
  exact congrArg Int16.ofNat (by rw [Array.getD_eq_getD_getElem?, hcount, Option.getD_some])

section

variable (hlog : ∀ x : ℝ, 1 < x → 0 < LogScalar.log x) (hk₁ : 0 ≤ k₁)
include hlog hk₁

theorem positive_iff_isMatch {query : List String} {e : ℝ × Nat}
    (he : e ∈ (ofDocuments documents ids positional k₁ b).ranking query) :
    (0.0 : ℝ) < e.1 ↔ isMatch documents query e = true := by
  have hscore := getElem?_scoreAll_of_mem_ranking he
  cases hdocument : documents[e.2]? with
  | none =>
    have hd := List.getElem?_eq_none_iff.1 hdocument
    rw [getElem?_scoreAll, size_ofDocuments, if_neg (Nat.not_lt.2 hd)] at hscore
    cases hscore
  | some document =>
    rw [getElem?_scoreAll_ofDocuments ids positional k₁ b hdocument] at hscore
    rw [← Option.some.inj hscore, Scalar.real_zero, Formula.score_pos_iff hlog hk₁, isMatch,
      hdocument, Option.any_some]

theorem filter_ranking (query : List String) :
    ((ofDocuments documents ids positional k₁ b).ranking query).filter (fun e => (0.0 : ℝ) < e.1) =
      ((ofDocuments documents ids positional k₁ b).ranking query).filter
        (isMatch documents query) := by
  refine List.filter_congr fun e he => ?_
  rw [Bool.eq_iff_iff, decide_eq_true_iff, positive_iff_isMatch ids positional b hlog hk₁ he]

theorem isMatch_leads (query : List String) :
    ((ofDocuments documents ids positional k₁ b).ranking query).filter
      (isMatch documents query) <+: (ofDocuments documents ids positional k₁ b).ranking query := by
  refine filter_leads ((ordered_ranking _ query).imp_of_mem fun {e e'} he he' hee' hmatch => ?_)
  have hpos := (positive_iff_isMatch ids positional b hlog hk₁ he').2 hmatch
  refine (positive_iff_isMatch ids positional b hlog hk₁ he).1 (hpos.trans_le ?_)
  rcases hee' with hlt | ⟨heq, -⟩
  · exact hlt.le
  · exact heq.ge

end

/-- With exact arithmetic and a logarithm that is positive above one, exactly the documents with a
token of the query are retrieved, best first. -/
theorem finds_matching_documents (hlog : ∀ x : ℝ, 1 < x → 0 < LogScalar.log x) (hk₁ : 0 ≤ k₁)
    (documents : List (List String)) (query : List String) :
    (ofDocuments documents ids positional k₁ b).Finds documents query where
  everyDocument := perm_range_ranking ids positional b query
  score _ he := getElem?_scoreAll_of_mem_ranking he
  order := ordered_ranking _ query
  leads := isMatch_leads ids positional b hlog hk₁ query
  retrieved := by
    rw [rank, cut, ← filter_ranking ids positional b hlog hk₁]
    exact List.map_map
  limitedRank := slicesOf_cut _
  limitedRows := by
    simp only [rows_retrieve _ query (some _)]
    exact slicesOf_cut _
  occurrences limit row hrow := by
    obtain ⟨d, document, hdocid, hdocument, hcount⟩ := occurrences_retrieve ids positional b hrow
    refine ⟨d, document, hdocid, hdocument, hcount, fun hsmall => ?_⟩
    rw [hcount, Int16.toInt_ofNat_of_lt (by omega)]

omit [RealLogs] in
theorem finds_matching_documents_natural :
    (∀ x : ℝ, 1 < x → 0 < RealLogs.natural.log x) ∧ (0 : ℝ) ≤ 1.5 ∧
      @Finds .natural (ofDocuments [["a", "b"], ["c"], ["b"]] [] true 1.5 0.75)
        [["a", "b"], ["c"], ["b"]] ["b", "x", "b"] := by
  have hlog : ∀ x : ℝ, 1 < x → 0 < RealLogs.natural.log x := fun x => Real.log_pos
  have hk₁ : (0 : ℝ) ≤ 1.5 := by norm_num
  exact ⟨hlog, hk₁, @finds_matching_documents .natural [] true 1.5 0.75 hlog hk₁ _ _⟩

end BM25
end ProximityRanking
