import Mathlib.Algebra.BigOperators.Group.List.Lemmas
import Mathlib.Data.List.Basic
import ProximityRanking.Index
import ProximityRanking.Proofs.Grouping
/-!
The index is its documents turned inside out, and nothing is lost. `postingsIn` says document by
document what the postings of a term are; the index has exactly these, so each token stands in the
postings of its own term and of no other, and the documents can be read back.
-/
set_option autoImplicit false

namespace ProximityRanking.Index

def positionsIn (term : String) (document : List String) : List Int :=
  Roster.under term (document.zipIdx.map fun e => (e.1, (e.2 : Int)))

def posting? (term : String) (number : Nat) (document : List String) : Option Posting :=
  if term ∈ document then some ⟨number, document.length, positionsIn term document⟩ else none

def postingsIn (term : String) (documents : List (List String)) : List Posting :=
  documents.zipIdx.filterMap fun e => posting? term e.2 e.1

theorem mem_positionsIn {term : String} {document : List String} {p : Int} :
    p ∈ positionsIn term document ↔ ∃ i : Nat, p = i ∧ document[i]? = some term := by
  simp only [positionsIn, Roster.under, List.mem_map, List.mem_filter, Prod.exists]
  constructor
  · rintro ⟨k, q, ⟨⟨t, i, hi, heq⟩, hk⟩, rfl⟩
    obtain ⟨rfl, rfl⟩ := Prod.mk.inj heq
    obtain rfl : t = term := by simpa using hk
    exact ⟨i, rfl, List.mk_mem_zipIdx_iff_getElem?.1 hi⟩
  · rintro ⟨i, rfl, hi⟩
    exact ⟨term, i, ⟨⟨term, i, List.mk_mem_zipIdx_iff_getElem?.2 hi, rfl⟩, by simp⟩, rfl⟩

theorem natCast_mem_positionsIn {term : String} {document : List String} {i : Nat} :
    (i : Int) ∈ positionsIn term document ↔ document[i]? = some term := by
  rw [mem_positionsIn]
  constructor
  · rintro ⟨j, hj, h⟩
    obtain rfl : i = j := by omega
    exact h
  · intro h
    exact ⟨i, rfl, h⟩

theorem pairwise_zipIdx {β : Type} (l : List β) (k : Nat) :
    (l.zipIdx k).Pairwise fun a b => a.2 < b.2 := by
  have h : ((l.zipIdx k).map Prod.snd).Pairwise (· < ·) := by
    rw [List.zipIdx_map_snd]
    exact List.pairwise_lt_range'
  exact List.pairwise_map.1 h

theorem pairwise_positionsIn (term : String) (document : List String) :
    (positionsIn term document).Pairwise (· < ·) := by
  unfold positionsIn Roster.under
  rw [List.pairwise_map]
  refine List.Pairwise.sublist List.filter_sublist (List.pairwise_map.2 ?_)
  exact (pairwise_zipIdx document 0).imp fun h => by simpa using h

theorem positionsIn_ne_nil {term : String} {document : List String} (h : term ∈ document) :
    positionsIn term document ≠ [] := by
  obtain ⟨i, hi⟩ := List.mem_iff_getElem?.1 h
  exact List.ne_nil_of_mem (natCast_mem_positionsIn.2 hi)

theorem length_positionsIn (term : String) (document : List String) :
    (positionsIn term document).length = document.count term := by
  unfold positionsIn Roster.under
  rw [List.length_map, ← List.countP_eq_length_filter, List.countP_map]
  have h : (fun e : String × Int => decide (e.1 = term)) ∘
      (fun e : String × Nat => (e.1, (e.2 : Int))) = (fun t => t == term) ∘ Prod.fst := by
    funext e
    simp [beq_eq_decide]
  rw [h, ← List.countP_map, List.zipIdx_map_fst]
  rfl

theorem posting?_eq_some {term : String} {number : Nat} {document : List String} {q : Posting} :
    posting? term number document = some q ↔
      term ∈ document ∧ q = ⟨number, document.length, positionsIn term document⟩ := by
  unfold posting?
  split
  · rename_i h
    simp [h, eq_comm]
  · rename_i h
    simp [h]

theorem mem_postingsIn {term : String} {documents : List (List String)} {q : Posting} :
    q ∈ postingsIn term documents ↔
      ∃ (d : Nat) (document : List String), documents[d]? = some document ∧ term ∈ document ∧
        q = ⟨d, document.length, positionsIn term document⟩ := by
  simp only [postingsIn, List.mem_filterMap, Prod.exists, posting?_eq_some,
    List.mk_mem_zipIdx_iff_getElem?]
  constructor
  · rintro ⟨document, d, hd, h⟩
    exact ⟨d, document, hd, h⟩
  · rintro ⟨d, document, hd, h⟩
    exact ⟨document, d, hd, h⟩

theorem pairwise_postingsIn (term : String) (documents : List (List String)) :
    (postingsIn term documents).Pairwise fun p q => p.docid < q.docid := by
  unfold postingsIn
  rw [List.pairwise_filterMap]
  refine (pairwise_zipIdx documents 0).imp fun {a b} hab p hp q hq => ?_
  obtain ⟨-, rfl⟩ := posting?_eq_some.1 hp
  obtain ⟨-, rfl⟩ := posting?_eq_some.1 hq
  simpa using hab

theorem filterMap_zipIdx_of_getElem? {β γ : Type} {f : β × Nat → Option γ} {d : Nat}
    (hf : ∀ b k, k ≠ d → f (b, k) = none) {l : List β} {b : β} (h : l[d]? = some b) :
    l.zipIdx.filterMap f = (f (b, d)).toList := by
  have hnone : ∀ (l' : List β) (k : Nat), (∀ e ∈ l'.zipIdx k, e.2 ≠ d) →
      (l'.zipIdx k).filterMap f = [] := by
    intro l' k hk
    exact List.filterMap_eq_nil_iff.2 fun e he => hf e.1 e.2 (hk e he)
  obtain ⟨hd, hb⟩ := List.getElem?_eq_some_iff.1 h
  have hsplit : l = l.take d ++ b :: l.drop (d + 1) := by
    rw [← hb, List.getElem_cons_drop, List.take_append_drop]
  have hlength : (l.take d).length = d := List.length_take_of_le hd.le
  rw [hsplit, List.zipIdx_append, List.zipIdx_cons, List.filterMap_append, List.filterMap_cons,
    hlength, hnone _ _ fun e he => ?before, hnone _ _ fun e he => ?after]
  case before =>
    obtain ⟨-, hlt, -⟩ := List.mem_zipIdx he
    omega
  case after =>
    have hle := (List.mem_zipIdx he).1
    omega
  rw [Nat.zero_add]
  cases f (b, d) <;> rfl

theorem filter_postingsIn {documents : List (List String)} {document : List String} {d : Nat}
    (h : documents[d]? = some document) (term : String) :
    (postingsIn term documents).filter (·.docid.toNat = d) =
      (posting? term d document).toList := by
  unfold postingsIn
  rw [List.filter_filterMap, filterMap_zipIdx_of_getElem? (fun document' k hk => ?_) h]
  · cases hposting : posting? term d document with
    | none => rfl
    | some p =>
      obtain ⟨-, rfl⟩ := posting?_eq_some.1 hposting
      simp
  · rw [Option.filter_eq_none_iff]
    intro p hp
    obtain ⟨-, rfl⟩ := posting?_eq_some.1 hp
    simpa using hk

theorem length_postingsIn (term : String) (documents : List (List String)) :
    (postingsIn term documents).length = documents.countP (term ∈ ·) := by
  have hsome : (fun e : List String × Nat => (posting? term e.2 e.1).isSome) =
      (fun document => decide (term ∈ document)) ∘ Prod.fst := by
    funext e
    unfold posting?
    split <;> simp [*]
  rw [postingsIn, List.length_filterMap_eq_countP, hsome, ← List.countP_map, List.zipIdx_map_fst]

theorem postingsIn_eq_nil {term : String} {documents : List (List String)}
    (h : term ∉ documents.flatten) : postingsIn term documents = [] := by
  rw [List.eq_nil_iff_forall_not_mem]
  intro q hq
  obtain ⟨d, document, hd, hmem, -⟩ := mem_postingsIn.1 hq
  exact h (List.mem_flatten.2 ⟨document, List.mem_of_getElem? hd, hmem⟩)

theorem positionsByTerm_eq_collect (document : List String) :
    positionsByTerm document =
      Roster.empty.collect (document.zipIdx.map fun e => (e.1, (e.2 : Int))) := by
  unfold positionsByTerm Roster.collect
  rw [List.foldl_map]

theorem find?_positionsByTerm (document : List String) (term : String) :
    (positionsByTerm document).find? term =
      if term ∈ document then some (positionsIn term document).toArray else none := by
  have hkeys : (document.zipIdx.map fun e => (e.1, (e.2 : Int))).map Prod.fst = document := by
    rw [List.map_map]
    exact List.zipIdx_map_fst 0 document
  rw [positionsByTerm_eq_collect, Roster.find?_collect, hkeys]
  simp [positionsIn]

theorem keys_positionsByTerm (document : List String) :
    (positionsByTerm document).keys = document.eraseDups := by
  rw [positionsByTerm_eq_collect, Roster.keys_collect, List.map_map]
  exact congrArg List.eraseDups (List.zipIdx_map_fst 0 document)

def entriesOf (number : Nat) (document : List String) : List (String × Posting) :=
  (positionsByTerm document).toList.map fun e => (e.1, ⟨number, document.length, e.2.toList⟩)

theorem map_fst_entriesOf (number : Nat) (document : List String) :
    (entriesOf number document).map Prod.fst = document.eraseDups := by
  unfold entriesOf
  rw [List.map_map, ← keys_positionsByTerm]
  rfl

theorem mem_entriesOf {number : Nat} {document : List String} {term : String} {q : Posting} :
    (term, q) ∈ entriesOf number document ↔ posting? term number document = some q := by
  simp only [entriesOf, List.mem_map, Prod.exists, ← Roster.find?_eq_some_iff,
    find?_positionsByTerm, posting?]
  by_cases h : term ∈ document
  · constructor
    · rintro ⟨t, ps, hps, heq⟩
      obtain ⟨rfl, rfl⟩ := Prod.mk.inj heq
      obtain rfl : (positionsIn t document).toArray = ps := by simpa [h] using hps
      simp [h]
    · intro hq
      exact ⟨term, (positionsIn term document).toArray, by simp [h], by simpa [h] using hq⟩
  · constructor
    · rintro ⟨t, ps, hps, heq⟩
      obtain ⟨rfl, rfl⟩ := Prod.mk.inj heq
      simp [h] at hps
    · simp [h]

theorem under_entriesOf (number : Nat) (document : List String) (term : String) :
    Roster.under term (entriesOf number document) = (posting? term number document).toList := by
  have hnodup : ((entriesOf number document).map Prod.fst).Nodup := by
    rw [map_fst_entriesOf]
    exact nodup_eraseDups document
  rw [Roster.under_eq_lookup hnodup]
  congr 1
  ext q
  rw [lookup_eq_some_iff hnodup, mem_entriesOf]

theorem invert_eq_collect (documents : List (List String)) :
    invert documents =
      Roster.empty.collect (documents.zipIdx.flatMap fun e => entriesOf e.2 e.1) := by
  unfold invert Roster.collect
  rw [List.foldl_flatMap]
  congr 1
  funext table e
  obtain ⟨document, number⟩ := e
  unfold addDocument entriesOf
  rw [List.foldl_map]

theorem map_fst_flatMap_entriesOf (documents : List (List String)) :
    (documents.zipIdx.flatMap fun e => entriesOf e.2 e.1).map Prod.fst =
      documents.flatMap List.eraseDups := by
  rw [List.map_flatMap]
  simp only [map_fst_entriesOf]
  rw [← List.flatMap_map, List.zipIdx_map_fst]

theorem find?_invert (documents : List (List String)) (term : String) :
    (invert documents).find? term =
      if term ∈ documents.flatten then some (postingsIn term documents).toArray else none := by
  have hmem : term ∈ documents.flatMap List.eraseDups ↔ term ∈ documents.flatten := by
    simp only [List.mem_flatMap, List.mem_flatten, List.mem_eraseDups]
  have hunder : Roster.under term (documents.zipIdx.flatMap fun e => entriesOf e.2 e.1) =
      postingsIn term documents := by
    rw [Roster.under_flatMap, postingsIn, List.filterMap_eq_flatMap_toList]
    simp only [under_entriesOf]
  rw [invert_eq_collect, Roster.find?_collect, map_fst_flatMap_entriesOf, hunder]
  simp only [hmem, Roster.find?_empty, Option.getD_none, Array.empty_append]

theorem keys_invert (documents : List (List String)) :
    (invert documents).keys = documents.flatten.eraseDups := by
  rw [invert_eq_collect, Roster.keys_collect, map_fst_flatMap_entriesOf, Roster.keys_empty,
    List.nil_append, eraseDups_flatMap_eraseDups]

end ProximityRanking.Index
