import ProximityRanking.Proofs.Lossless
import ProximityRanking.Source
/-!
Merging keeps posting lists in order, so whatever an index opens, a term or several words as one, is
a list that streams can run over.
-/
set_option autoImplicit false

namespace ProximityRanking

variable {β : Type} {key : β → Int} {join : β → β → β}

theorem forall_mem_uniteBy {P : β → Prop}
    (hjoin : ∀ x y, key x = key y → P x → P y → P (join x y)) {xs ys : List β}
    (hxs : ∀ x ∈ xs, P x) (hys : ∀ y ∈ ys, P y) : ∀ z ∈ uniteBy key join xs ys, P z := by
  fun_induction uniteBy key join xs ys with
  | case1 ys => exact hys
  | case2 xs _ => exact hxs
  | case3 x xs y ys _ ih =>
    obtain ⟨hx, hxs⟩ := List.forall_mem_cons.1 hxs
    exact List.forall_mem_cons.2 ⟨hx, ih hxs hys⟩
  | case4 x xs y ys _ _ ih =>
    obtain ⟨hy, hys⟩ := List.forall_mem_cons.1 hys
    exact List.forall_mem_cons.2 ⟨hy, ih hxs hys⟩
  | case5 x xs y ys hxy hyx ih =>
    obtain ⟨hx, hxs⟩ := List.forall_mem_cons.1 hxs
    obtain ⟨hy, hys⟩ := List.forall_mem_cons.1 hys
    exact List.forall_mem_cons.2 ⟨hjoin x y (by omega) hx hy, ih hxs hys⟩

theorem pairwise_uniteBy (hjoin : ∀ x y, key x = key y → key (join x y) = key x) {xs ys : List β}
    (hxs : xs.Pairwise fun x x' => key x < key x')
    (hys : ys.Pairwise fun y y' => key y < key y') :
    (uniteBy key join xs ys).Pairwise fun z z' => key z < key z' := by
  -- What is below both lists is below their union.
  have hbelow : ∀ (k : Int) (xs ys : List β), (∀ x ∈ xs, k < key x) → (∀ y ∈ ys, k < key y) →
      ∀ z ∈ uniteBy key join xs ys, k < key z := fun k xs ys =>
    forall_mem_uniteBy fun x y h hx _ => by rw [hjoin x y h]; exact hx
  fun_induction uniteBy key join xs ys with
  | case1 ys => exact hys
  | case2 xs _ => exact hxs
  | case3 x xs y ys hxy ih =>
    obtain ⟨hx, hxs⟩ := List.pairwise_cons.1 hxs
    obtain ⟨hy, -⟩ := List.pairwise_cons.1 hys
    refine List.pairwise_cons.2 ⟨hbelow _ _ _ hx ?_, ih hxs hys⟩
    refine List.forall_mem_cons.2 ⟨hxy, fun y' hy' => ?_⟩
    have := hy y' hy'
    omega
  | case4 x xs y ys _ hyx ih =>
    obtain ⟨hx, -⟩ := List.pairwise_cons.1 hxs
    obtain ⟨hy, hys⟩ := List.pairwise_cons.1 hys
    refine List.pairwise_cons.2 ⟨hbelow _ _ _ ?_ hy, ih hxs hys⟩
    refine List.forall_mem_cons.2 ⟨hyx, fun x' hx' => ?_⟩
    have := hx x' hx'
    omega
  | case5 x xs y ys hxy hyx ih =>
    obtain ⟨hx, hxs⟩ := List.pairwise_cons.1 hxs
    obtain ⟨hy, hys⟩ := List.pairwise_cons.1 hys
    have hkey : key x = key y := by omega
    refine List.pairwise_cons.2 ⟨?_, ih hxs hys⟩
    rw [hjoin x y hkey]
    exact hbelow _ _ _ hx (by rwa [hkey])

namespace Index

variable {documents : List (List String)} {ids : List String} {positional : Bool}

def InOrder (documents : List (List String)) (postings : List Posting) : Prop :=
  (postings.Pairwise fun p q => p.docid < q.docid) ∧
    ∀ q ∈ postings, q.docid < documents.length

theorem inOrder_postingsIn (term : String) (documents : List (List String)) :
    InOrder documents (postingsIn term documents) := by
  refine ⟨pairwise_postingsIn term documents, fun q hq => ?_⟩
  obtain ⟨d, document, hd, -, rfl⟩ := mem_postingsIn.1 hq
  obtain ⟨hlt, -⟩ := List.getElem?_eq_some_iff.1 hd
  exact Int.ofNat_lt.2 hlt

theorem InOrder.unite {ps qs : List Posting} (hps : InOrder documents ps)
    (hqs : InOrder documents qs) : InOrder documents (unitePostings ps qs) := by
  constructor
  · exact @pairwise_uniteBy _ Posting.docid Posting.unite (fun _ _ _ => rfl) _ _ hps.1 hqs.1
  · exact @forall_mem_uniteBy _ Posting.docid Posting.unite (fun q => q.docid < documents.length)
      (fun _ _ _ hp _ => hp) _ _ hps.2 hqs.2

theorem InOrder.foldl_unite {ps : List Posting} (hps : InOrder documents ps)
    (words : List String) : InOrder documents (words.foldl (fun acc w =>
      unitePostings acc ((ofDocuments documents ids positional).postingsOf w).toList) ps) := by
  induction words generalizing ps with
  | nil => exact hps
  | cons w words ih =>
    rw [List.foldl_cons, toList_postingsOf_ofDocuments]
    exact ih (hps.unite (inOrder_postingsIn w documents))

theorem find?_ofDocuments {opening : Opening} {list : PostingList}
    (h : (ofDocuments documents ids positional).find? opening = some list) :
    InOrder documents list.postings.toList ∧ list.positional = positional := by
  cases opening with
  | term text =>
    obtain ⟨-, rfl⟩ := postings?_ofDocuments_eq_some.1 h
    exact ⟨inOrder_postingsIn text documents, rfl⟩
  | merged words name =>
    simp only [find?, merged?] at h
    split at h
    · cases h
    · obtain rfl := Option.some.inj h
      refine ⟨?_, rfl⟩
      exact InOrder.foldl_unite ⟨List.Pairwise.nil, by simp⟩ _

theorem ascends_of_find? (hdocuments : documents.length < 2 ^ 63) {opening : Opening}
    {list : PostingList} (h : (ofDocuments documents ids positional).find? opening = some list) :
    list.Ascends := by
  obtain ⟨⟨hascending, hbelow⟩, -⟩ := find?_ofDocuments h
  refine ⟨hascending, fun q hq => ?_⟩
  have := hbelow q hq
  unfold endOfList
  omega

end Index
end ProximityRanking
