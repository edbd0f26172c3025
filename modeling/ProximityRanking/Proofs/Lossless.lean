import Mathlib.Algebra.BigOperators.Group.Finset.Basic
import Mathlib.Algebra.GroupWithZero.Nat
import ProximityRanking.Proofs.Inversion
import ProximityRanking.Proofs.Streams
/-!
Nothing of the documents is lost in the index, and nothing is counted twice. `Index.Inverts` lists
what that means; `Index.rebuild` reads the documents back.
-/
set_option autoImplicit false

namespace ProximityRanking.Index

def Places (x : Index) (term : String) (d p : Nat) : Prop :=
  ∃ list, x.postings? term = some list ∧
    ∃ q ∈ list.postings.toList, q.docid = d ∧ (p : Int) ∈ q.positions

def tokenAt? (x : Index) (d p : Nat) : Option String :=
  x.table.keys.find? fun term =>
    (x.postingsOf term).toList.any fun q => q.docid == d && q.positions.contains (p : Int)

def rebuild (x : Index) : List (List String) :=
  x.lengths.toList.zipIdx.map fun e => (List.range e.1).filterMap (x.tokenAt? e.2)

def totalFrequency (x : Index) : Nat :=
  (x.table.keys.map fun term => x.lexiconEntry? term |>.elim 0 (·.collectionFrequency)).sum

variable (documents : List (List String)) (ids : List String) (positional : Bool)

theorem postings?_ofDocuments (term : String) :
    (ofDocuments documents ids positional).postings? term =
      if term ∈ documents.flatten then
        some ⟨some term, (postingsIn term documents).toArray, positional⟩
      else none := by
  unfold postings? ofDocuments
  simp only [find?_invert]
  split <;> rfl

theorem toList_postingsOf_ofDocuments (term : String) :
    ((ofDocuments documents ids positional).postingsOf term).toList =
      postingsIn term documents := by
  unfold postingsOf ofDocuments
  simp only [find?_invert]
  by_cases h : term ∈ documents.flatten
  · simp [h]
  · simp [h, postingsIn_eq_nil h]

variable {documents ids positional}

theorem postings?_ofDocuments_eq_some {term : String} {list : PostingList} :
    (ofDocuments documents ids positional).postings? term = some list ↔
      term ∈ documents.flatten ∧
        list = ⟨some term, (postingsIn term documents).toArray, positional⟩ := by
  rw [postings?_ofDocuments]
  by_cases h : term ∈ documents.flatten
  · simp [h, eq_comm]
  · simp [h]

theorem places_iff {term : String} {d p : Nat} :
    (ofDocuments documents ids positional).Places term d p ↔
      ∃ document, documents[d]? = some document ∧ document[p]? = some term := by
  simp only [Places, postings?_ofDocuments_eq_some]
  constructor
  · rintro ⟨list, ⟨-, rfl⟩, q, hq, hd, hp⟩
    obtain ⟨d', document, hdocument, -, rfl⟩ := mem_postingsIn.1 (by simpa using hq)
    obtain rfl : d' = d := Int.ofNat_inj.1 hd
    exact ⟨document, hdocument, natCast_mem_positionsIn.1 hp⟩
  · rintro ⟨document, hdocument, hp⟩
    have hterm := List.mem_of_getElem? hp
    refine ⟨_, ⟨List.mem_flatten.2 ⟨document, List.mem_of_getElem? hdocument, hterm⟩, rfl⟩,
      ⟨d, document.length, positionsIn term document⟩, ?_, rfl, natCast_mem_positionsIn.2 hp⟩
    simpa using mem_postingsIn.2 ⟨d, document, hdocument, hterm, rfl⟩

theorem find?_eq_of_unique {l : List String} {f : String → Bool} {o : Option String}
    (hf : ∀ t, f t = true ↔ o = some t) (hmem : ∀ t, o = some t → t ∈ l) : l.find? f = o := by
  cases h : l.find? f with
  | none =>
    cases o with
    | none => rfl
    | some t => exact absurd ((hf t).2 rfl) (List.find?_eq_none.1 h t (hmem t rfl))
  | some t => exact ((hf t).1 (List.find?_some h)).symm

theorem tokenAt?_ofDocuments {document : List String} {d : Nat}
    (h : documents[d]? = some document) (p : Nat) :
    (ofDocuments documents ids positional).tokenAt? d p = document[p]? := by
  refine find?_eq_of_unique (fun term => ?_) fun term hp => ?_
  · rw [toList_postingsOf_ofDocuments, List.any_eq_true]
    simp only [Bool.and_eq_true, beq_iff_eq, List.contains_iff_mem]
    constructor
    · rintro ⟨q, hq, hd, hp⟩
      obtain ⟨d', document', hdocument, -, rfl⟩ := mem_postingsIn.1 hq
      obtain rfl : d' = d := Int.ofNat_inj.1 hd
      obtain rfl : document = document' := by simpa [h] using hdocument
      exact natCast_mem_positionsIn.1 hp
    · intro hp
      exact ⟨⟨d, document.length, positionsIn term document⟩,
        mem_postingsIn.2 ⟨d, document, h, List.mem_of_getElem? hp, rfl⟩, rfl,
        natCast_mem_positionsIn.2 hp⟩
  · change term ∈ (invert documents).keys
    rw [keys_invert, List.mem_eraseDups]
    exact List.mem_flatten.2 ⟨document, List.mem_of_getElem? h, List.mem_of_getElem? hp⟩

theorem filterMap_getElem?_range (document : List String) :
    (List.range document.length).filterMap (document[·]?) = document := by
  have h : (List.range document.length).map (document[·]?) = document.map some := by
    refine List.ext_getElem (by simp) fun i h₁ h₂ => ?_
    simp only [List.length_map, List.length_range] at h₁
    simp [h₁]
  have hfilter := congrArg (List.filterMap id) h
  simpa [List.filterMap_map, Function.comp_def] using hfilter

theorem rebuild_ofDocuments : (ofDocuments documents ids positional).rebuild = documents := by
  unfold rebuild
  have hlengths : (ofDocuments documents ids positional).lengths.toList =
      documents.map List.length := rfl
  rw [hlengths, List.zipIdx_map, List.map_map]
  calc documents.zipIdx.map _ = documents.zipIdx.map Prod.fst := by
        refine List.map_congr_left fun e he => ?_
        obtain ⟨document, d⟩ := e
        have hd := List.mk_mem_zipIdx_iff_getElem?.1 he
        simp only [Function.comp_apply, Prod.map_apply, id_eq, tokenAt?_ofDocuments hd,
          filterMap_getElem?_range]
    _ = documents := List.zipIdx_map_fst 0 documents

theorem frequencies_ofDocuments (term : String) :
    (ofDocuments documents ids positional).frequencies term =
      (postingsIn term documents).map fun q => (q.docid, q.positions.length) := by
  unfold frequencies
  rw [toList_postingsOf_ofDocuments]
  rfl

theorem sum_length_positions (term : String) (k : Nat) :
    (((documents.zipIdx k).filterMap fun e => posting? term e.2 e.1).map
      fun q => q.positions.length).sum = documents.flatten.count term := by
  induction documents generalizing k with
  | nil => rfl
  | cons document documents ih =>
    rw [List.zipIdx_cons, List.flatten_cons, List.count_append, ← ih (k + 1)]
    by_cases h : term ∈ document
    · simp [posting?, h, length_positionsIn]
    · simp [posting?, h, List.count_eq_zero_of_not_mem h]

theorem lexiconEntry?_ofDocuments (term : String) :
    lexiconEntry? (ofDocuments documents ids positional) term =
      ((invert documents).place? term).map fun id =>
        { term := term, id := id, documentFrequency := (postingsIn term documents).length,
          collectionFrequency := documents.flatten.count term } := by
  have hsum := @sum_length_positions documents term 0
  have hplace : (ofDocuments documents ids positional).table.place? term =
      (invert documents).place? term := rfl
  unfold lexiconEntry?
  rw [hplace, frequencies_ofDocuments, List.map_map]
  simp only [Function.comp_def, List.length_map, postingsIn, hsum]
  cases (invert documents).place? term <;> rfl

theorem place?_invert_eq_some {term : String} {i : Nat} :
    (invert documents).place? term = some i ↔ documents.flatten.eraseDups[i]? = some term := by
  rw [Roster.place?_eq_some_iff, keys_invert]

theorem place?_invert_isSome {term : String} (h : term ∈ documents.flatten) :
    ∃ i, (invert documents).place? term = some i := by
  obtain ⟨i, hi⟩ := List.mem_iff_getElem?.1 (List.mem_eraseDups.2 h)
  exact ⟨i, place?_invert_eq_some.2 hi⟩

theorem sum_eraseDups_count_nsmul {M : Type} [AddCommMonoid M] (l : List String) (f : String → M) :
    (l.eraseDups.map fun t => l.count t • f t).sum = (l.map f).sum := by
  have hfinset : l.eraseDups.toFinset = l.toFinset := by
    ext t
    rw [List.mem_toFinset, List.mem_toFinset, List.mem_eraseDups]
  rw [Finset.sum_list_map_count l f, ← hfinset, List.sum_toFinset _ (nodup_eraseDups l)]

theorem sum_count_eraseDups (l : List String) :
    (l.eraseDups.map fun t => l.count t).sum = l.length := by
  have hsum := sum_eraseDups_count_nsmul l fun _ => 1
  simpa using hsum

theorem totalFrequency_ofDocuments :
    (ofDocuments documents ids positional).totalFrequency = documents.flatten.length := by
  have hkeys : (ofDocuments documents ids positional).table.keys =
      documents.flatten.eraseDups := keys_invert documents
  unfold totalFrequency
  rw [hkeys, ← sum_count_eraseDups]
  congr 1
  refine List.map_congr_left fun term hterm => ?_
  obtain ⟨i, hi⟩ := place?_invert_isSome (List.mem_eraseDups.1 hterm)
  rw [lexiconEntry?_ofDocuments, hi]
  rfl

theorem statistics_ofDocuments : (ofDocuments documents ids positional).statistics =
    ⟨documents.length, documents.flatten.length⟩ := by
  simp [statistics, ofDocuments, List.length_flatten]

/-- An index turns documents inside out, and loses nothing. -/
structure Inverts (x : Index) (documents : List (List String)) : Prop where
  /-- A position of a document is in the postings of the token there, and in no others. -/
  places : ∀ term d p, x.Places term d p ↔
    ∃ document, documents[d]? = some document ∧ document[p]? = some term
  rebuilt : x.rebuild = documents
  indexed : ∀ term, (x.postings? term).isSome ↔ term ∈ documents.flatten
  ascending : ∀ term list, x.postings? term = some list →
    list.postings.toList.Pairwise fun q q' => q.docid < q'.docid
  posting : ∀ term list, x.postings? term = some list → ∀ q ∈ list.postings.toList,
    ∃ (d : Nat) (document : List String), documents[d]? = some document ∧ q.docid = d ∧
      q.length = document.length ∧ q.positions ≠ [] ∧ q.positions.Pairwise (· < ·) ∧
      ∀ p ∈ q.positions, 0 ≤ p ∧ p < document.length
  /-- A stream comes to the postings one by one, and then to its end. -/
  stream : ∀ term list, x.postings? term = some list →
    (∀ k q, list.postings[k]? = some q →
      (Stream.step^[k + 1] (Stream.ofList list)).posting = .ok q) ∧
    (Stream.step^[list.postings.size + 1] (Stream.ofList list)).docid = endOfList
  frequencies : ∀ term list, x.postings? term = some list →
    x.frequencies term = list.postings.toList.map fun q => (q.docid, q.positions.length)
  entry : ∀ term list, x.postings? term = some list →
    ∃ e, x.lexiconEntry? term = some e ∧ e.term = term ∧
      e.documentFrequency = list.postings.size ∧
      e.collectionFrequency = (list.postings.toList.map fun q => q.positions.length).sum
  total : x.totalFrequency = x.statistics.tokens
  statistics : x.statistics = ⟨documents.length, documents.flatten.length⟩
  /-- Terms are numbered in the order in which they first come. -/
  numbered : ∀ i term, (∃ e, x.lexiconEntry? term = some e ∧ e.id = i) ↔
    documents.flatten.eraseDups[i]? = some term
  vocabulary : x.vocabularySize = documents.flatten.eraseDups.length

theorem posting_of_mem_postingsIn {term : String} {q : Posting}
    (h : q ∈ postingsIn term documents) :
    ∃ (d : Nat) (document : List String), documents[d]? = some document ∧ q.docid = d ∧
      q.length = document.length ∧ q.positions ≠ [] ∧ q.positions.Pairwise (· < ·) ∧
      ∀ p ∈ q.positions, 0 ≤ p ∧ p < document.length := by
  obtain ⟨d, document, hd, hterm, rfl⟩ := mem_postingsIn.1 h
  refine ⟨d, document, hd, rfl, rfl, positionsIn_ne_nil hterm, pairwise_positionsIn term document,
    fun p hp => ?_⟩
  obtain ⟨i, rfl, hi⟩ := mem_positionsIn.1 hp
  obtain ⟨hlt, -⟩ := List.getElem?_eq_some_iff.1 hi
  omega

theorem stream_reads {list : PostingList} (hpos : list.positional = true) :
    (∀ k q, list.postings[k]? = some q →
      (Stream.step^[k + 1] (Stream.ofList list)).posting = .ok q) ∧
    (Stream.step^[list.postings.size + 1] (Stream.ofList list)).docid = endOfList := by
  constructor
  · intro k q hq
    obtain ⟨hk, -⟩ := Array.getElem?_eq_some_iff.1 hq
    refine Stream.posting_of_current? (by simpa using hpos) ?_
    rw [Stream.iterate_step_current? list (Nat.le_of_lt hk), hq]
  · have hsteps := Stream.iterate_step_steps list (Nat.le_refl (list.postings.size + 1))
    simp only [Stream.docid, hsteps, Stream.iterate_step_list, Stream.ofList_list]
    simp

theorem inverts_ofDocuments : (ofDocuments documents ids true).Inverts documents where
  places _ _ _ := places_iff
  rebuilt := rebuild_ofDocuments
  indexed term := by
    rw [postings?_ofDocuments]
    split <;> simp_all
  ascending term list h := by
    obtain ⟨-, rfl⟩ := postings?_ofDocuments_eq_some.1 h
    exact pairwise_postingsIn term documents
  posting term list h q hq := by
    obtain ⟨-, rfl⟩ := postings?_ofDocuments_eq_some.1 h
    exact posting_of_mem_postingsIn hq
  stream term list h := by
    obtain ⟨-, rfl⟩ := postings?_ofDocuments_eq_some.1 h
    exact stream_reads rfl
  frequencies term list h := by
    obtain ⟨-, rfl⟩ := postings?_ofDocuments_eq_some.1 h
    exact frequencies_ofDocuments term
  entry term list h := by
    obtain ⟨hterm, rfl⟩ := postings?_ofDocuments_eq_some.1 h
    obtain ⟨i, hi⟩ := place?_invert_isSome hterm
    refine ⟨_, by rw [lexiconEntry?_ofDocuments, hi]; rfl, rfl, rfl, ?_⟩
    exact (sum_length_positions term 0).symm
  total := by
    rw [totalFrequency_ofDocuments, statistics_ofDocuments]
  statistics := statistics_ofDocuments
  numbered i term := by
    rw [lexiconEntry?_ofDocuments, ← place?_invert_eq_some]
    cases (invert documents).place? term <;> simp
  vocabulary := by
    have hsize : (invert documents).size = (invert documents).keys.length := by
      simp [Roster.size, Roster.keys, Roster.toList]
    unfold vocabularySize
    rw [← keys_invert, ← hsize]
    rfl

/-- The index of documents is a lossless inversion of them. Without positions its documents,
frequencies, numbers and statistics are the same. -/
theorem ofDocuments_lossless (documents : List (List String)) (ids : List String) :
    (ofDocuments documents ids true).Inverts documents ∧
      (∀ term,
        (ofDocuments documents ids false).frequencies term =
          (ofDocuments documents ids true).frequencies term ∧
        (ofDocuments documents ids false).postings? term =
          ((ofDocuments documents ids true).postings? term).map
            (fun list => { list with positional := false }) ∧
        lexiconEntry? (ofDocuments documents ids false) term =
          lexiconEntry? (ofDocuments documents ids true) term) ∧
      (ofDocuments documents ids false).statistics =
        (ofDocuments documents ids true).statistics ∧
      (ofDocuments documents ids false).vocabularySize =
        (ofDocuments documents ids true).vocabularySize := by
  refine ⟨inverts_ofDocuments, fun term => ⟨?_, ?_, ?_⟩, rfl, rfl⟩
  · rw [frequencies_ofDocuments, frequencies_ofDocuments]
  · rw [postings?_ofDocuments, postings?_ofDocuments]
    split <;> rfl
  · rw [lexiconEntry?_ofDocuments, lexiconEntry?_ofDocuments]

end ProximityRanking.Index
