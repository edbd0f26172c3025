import ProximityRanking.BM25
import ProximityRanking.Proofs.Lossless
/-!
The scores of documents. Ranking walks over the postings of the query and adds what each is worth to
the place of its document. `Index.hits` lists these postings in order, and a place of the scores
holds what the hits of its document add up to. Over an index of documents these are one hit for each
distinct query token of the document, so the score can be said of the documents alone
(`Formula.score`).
-/
set_option autoImplicit false

namespace ProximityRanking

variable {α β γ : Type}

theorem size_foldl_modify (place : β → Nat) (f : β → γ → γ) (l : List β) (xs : Array γ) :
    (l.foldl (fun xs b => xs.modify (place b) (f b)) xs).size = xs.size := by
  induction l generalizing xs with
  | nil => rfl
  | cons b l ih => rw [List.foldl_cons, ih, Array.size_modify]

theorem getElem?_foldl_modify (place : β → Nat) (f : β → γ → γ) (l : List β) (xs : Array γ)
    (d : Nat) :
    (l.foldl (fun xs b => xs.modify (place b) (f b)) xs)[d]? =
      xs[d]?.map fun x => (l.filter (place · = d)).foldl (fun x b => f b x) x := by
  induction l generalizing xs with
  | nil => simp
  | cons b l ih =>
    rw [List.foldl_cons, ih, Array.getElem?_modify]
    by_cases h : place b = d
    · simp [h, Function.comp_def]
    · simp [h]

namespace Index

def hits (x : Index) (query : List String) : List (String × Posting) :=
  query.eraseDups.flatMap fun token => (x.postingsOf token).toList.map (token, ·)

def hitsAt (x : Index) (query : List String) (d : Nat) : List (String × Posting) :=
  (x.hits query).filter (·.2.docid.toNat = d)

theorem foldl_hits (x : Index) (query : List String) (f : γ → String × Posting → γ) (c : γ) :
    (x.hits query).foldl f c = query.eraseDups.foldl (fun c token =>
      (x.postingsOf token).foldl (fun c p => f c (token, p)) c) c := by
  unfold hits
  rw [List.foldl_flatMap]
  congr 1
  funext c token
  rw [List.foldl_map, Array.foldl_toList]

variable {documents : List (List String)} {ids : List String} {positional : Bool}

theorem hitsAt_ofDocuments {document : List String} {d : Nat} (h : documents[d]? = some document)
    (query : List String) :
    (ofDocuments documents ids positional).hitsAt query d =
      (query.eraseDups.filter (· ∈ document)).map fun token =>
        (token, ⟨d, document.length, positionsIn token document⟩) := by
  have htoken : ∀ token, (((ofDocuments documents ids positional).postingsOf token).toList.map
      (token, ·)).filter (·.2.docid.toNat = d) =
        ((posting? token d document).map (token, ·)).toList := by
    intro token
    rw [toList_postingsOf_ofDocuments, List.filter_map, Option.toList_map, ← filter_postingsIn h]
    rfl
  unfold hitsAt hits
  rw [List.filter_flatMap, ← List.filterMap_eq_map, List.filterMap_filter,
    List.filterMap_eq_flatMap_toList]
  simp only [htoken, posting?, decide_eq_true_eq]
  refine List.flatMap_congr fun token _ => ?_
  split <;> rfl

end Index

namespace BM25

variable [LogScalar α] (r : BM25 α)

def worth (query : List String) (hit : String × Posting) : α :=
  Scalar.ofInt (query.count hit.1) * r.idf hit.1 *
    r.saturate hit.2.frequency hit.2.length.toNat

theorem scoreAll_eq_foldl (query : List String) :
    r.scoreAll query = (r.index.hits query).foldl
      (fun scores hit => scores.modify hit.2.docid.toNat (· + r.worth query hit))
      (Array.replicate r.index.size 0.0) := by
  unfold scoreAll
  rw [Roster.toList_tally, List.foldl_map]
  exact (r.index.foldl_hits query (fun (scores : Array α) hit =>
    scores.modify hit.2.docid.toNat (· + r.worth query hit)) _).symm

theorem size_scoreAll (query : List String) : (r.scoreAll query).size = r.index.size := by
  rw [scoreAll_eq_foldl]
  exact (size_foldl_modify _ _ _ _).trans Array.size_replicate

def total (query : List String) (d : Nat) : α :=
  ((r.index.hitsAt query d).map (r.worth query)).foldl (· + ·) 0.0

theorem getElem?_scoreAll (query : List String) (d : Nat) :
    (r.scoreAll query)[d]? = if d < r.index.size then some (r.total query d) else none := by
  rw [scoreAll_eq_foldl, getElem?_foldl_modify, Array.getElem?_replicate]
  split
  · rw [Option.map_some, total, List.foldl_map]
    rfl
  · rfl

end BM25

namespace Formula

variable [LogScalar α]

def documentFrequency (documents : List (List String)) (term : String) : Nat :=
  documents.countP (term ∈ ·)

def rarity (documents : List (List String)) (term : String) : α :=
  let df : Int := documentFrequency documents term
  LogScalar.log ((Scalar.ofInt (documents.length - df) + 0.5) / (Scalar.ofInt df + 0.5) + 1.0)

/-- The mean number of tokens of a document, or a small number when it is zero. -/
def meanLength (documents : List (List String)) : α :=
  let mean : α := Scalar.ofRatio documents.flatten.length documents.length
  if mean == 0.0 then 1.0e-9 else mean

def lengthNorm (documents : List (List String)) (b : α) (document : List String) : α :=
  1.0 - b + b * (Scalar.ofInt document.length / meanLength documents)

def share (documents : List (List String)) (k₁ b : α) (query document : List String)
    (token : String) : α :=
  let tf : α := Scalar.ofInt (document.count token)
  Scalar.ofInt (query.count token) * rarity documents token *
    (tf * (k₁ + 1.0) / Scalar.greatest (tf + k₁ * lengthNorm documents b document) 1.0e-9)

/-- The score of a document among others: the shares of the distinct query tokens in it. -/
def score (documents : List (List String)) (k₁ b : α) (query document : List String) : α :=
  ((query.eraseDups.filter (· ∈ document)).map (share documents k₁ b query document)).foldl
    (· + ·) 0.0

theorem score_of_no_token (documents : List (List String)) (k₁ b : α)
    {query document : List String} (h : ∀ token ∈ query, token ∉ document) :
    score documents k₁ b query document = 0.0 := by
  have hnone : query.eraseDups.filter (· ∈ document) = [] := by
    refine List.filter_eq_nil_iff.2 fun token htoken => ?_
    simpa using h token (List.mem_eraseDups.1 htoken)
  rw [score, hnone]
  rfl

end Formula

namespace BM25

variable [LogScalar α] (documents : List (List String)) (ids : List String) (positional : Bool)
  (k₁ b : α)

def ofDocuments : BM25 α :=
  ⟨Index.ofDocuments documents ids positional, k₁, b⟩

variable {documents}

omit [LogScalar α] in
@[simp] theorem size_ofDocuments :
    (ofDocuments documents ids positional k₁ b).index.size = documents.length := by
  simp [ofDocuments, Index.ofDocuments, Index.size]

theorem idf_ofDocuments {term : String} (hterm : term ∈ documents.flatten) :
    (ofDocuments documents ids positional k₁ b).idf term = Formula.rarity documents term := by
  obtain ⟨i, hi⟩ := Index.place?_invert_isSome hterm
  have hentry : Index.lexiconEntry? (ofDocuments documents ids positional k₁ b).index term =
      some ⟨term, i, Formula.documentFrequency documents term, documents.flatten.count term⟩ := by
    rw [ofDocuments, Index.lexiconEntry?_ofDocuments, hi, Index.length_postingsIn]
    rfl
  unfold idf
  rw [hentry, size_ofDocuments]
  rfl

theorem norm_ofDocuments {document : List String} (hmem : document ∈ documents) :
    (ofDocuments documents ids positional k₁ b).norm document.length =
      Formula.lengthNorm documents b document := by
  have hsome : documents.length ≠ 0 := (List.length_pos_of_mem hmem).ne'
  have haverage : (ofDocuments documents ids positional k₁ b).averageLength =
      Formula.meanLength documents := by
    simp only [averageLength, ofDocuments, Index.statistics_ofDocuments, Statistics.averageLength,
      if_neg hsome]
    rfl
  rw [norm, haverage]
  rfl

theorem worth_ofDocuments {document : List String} (hmem : document ∈ documents) (d : Nat)
    (query : List String) {token : String} (htoken : token ∈ document) :
    (ofDocuments documents ids positional k₁ b).worth query
        (token, ⟨d, document.length, Index.positionsIn token document⟩) =
      Formula.share documents k₁ b query document token := by
  have hfrequency : (Index.positionsIn token document).length = document.count token :=
    Index.length_positionsIn token document
  unfold worth saturate Posting.frequency
  simp only [Int.toNat_natCast, hfrequency]
  rw [idf_ofDocuments ids positional k₁ b (List.mem_flatten.2 ⟨document, hmem, htoken⟩),
    norm_ofDocuments ids positional k₁ b hmem]
  rfl

theorem total_ofDocuments {document : List String} {d : Nat} (h : documents[d]? = some document)
    (query : List String) :
    (ofDocuments documents ids positional k₁ b).total query d =
      Formula.score documents k₁ b query document := by
  have hmem := List.mem_of_getElem? h
  unfold total Formula.score
  rw [ofDocuments, Index.hitsAt_ofDocuments h, List.map_map]
  refine congrArg (List.foldl _ _) (List.map_congr_left fun token htoken => ?_)
  have hterm : token ∈ document := by simpa using (List.mem_filter.1 htoken).2
  exact worth_ofDocuments ids positional k₁ b hmem d query hterm

theorem getElem?_scoreAll_ofDocuments {document : List String} {d : Nat}
    (h : documents[d]? = some document) (query : List String) :
    ((ofDocuments documents ids positional k₁ b).scoreAll query)[d]? =
      some (Formula.score documents k₁ b query document) := by
  obtain ⟨hd, -⟩ := List.getElem?_eq_some_iff.1 h
  rw [getElem?_scoreAll, size_ofDocuments, if_pos hd, total_ofDocuments ids positional k₁ b h]

/-- The scores of all documents are those of the formula, by the same operations in the same order.
Nothing is added to the zero of a document without a query token. -/
theorem scoreAll_ofDocuments (documents : List (List String)) (query : List String) :
    ((ofDocuments documents ids positional k₁ b).scoreAll query).toList =
        documents.map (Formula.score documents k₁ b query) ∧
      ∀ (d : Nat) (document : List String), documents[d]? = some document →
        (∀ token ∈ query, token ∉ document) →
          ((ofDocuments documents ids positional k₁ b).scoreAll query)[d]? = some 0.0 := by
  constructor
  · refine List.ext_getElem? fun d => ?_
    rw [Array.getElem?_toList, List.getElem?_map]
    cases hdocument : documents[d]? with
    | none =>
      have hd := List.getElem?_eq_none_iff.1 hdocument
      rw [getElem?_scoreAll, size_ofDocuments, if_neg (Nat.not_lt.2 hd)]
      rfl
    | some document => exact getElem?_scoreAll_ofDocuments ids positional k₁ b hdocument query
  · intro d document hdocument hnone
    rw [getElem?_scoreAll_ofDocuments ids positional k₁ b hdocument,
      Formula.score_of_no_token documents k₁ b hnone]

end BM25
end ProximityRanking
