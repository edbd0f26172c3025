import ProximityRanking.Proofs.Lossless
import ProximityRanking.Source
/-!
Several words as one term. Merging the postings of some words gives what the index would have under
one name if that name stood in the documents wherever one of the words does. Both are the postings
of the words document by document, `postingsWhere`; a merge unites two such lists over one and the
same list of documents.
-/
set_option autoImplicit false

namespace ProximityRanking

variable {β δ : Type} {key : β → Int} {join : β → β → β}

theorem uniteBy_cons_left {x : β} {xs ys : List β} (h : ∀ y ∈ ys, key x < key y) :
    uniteBy key join (x :: xs) ys = x :: uniteBy key join xs ys := by
  cases ys with
  | nil => simp
  | cons y ys => rw [uniteBy, if_pos (h y (by simp))]

theorem uniteBy_cons_right {y : β} {xs ys : List β} (h : ∀ x ∈ xs, key y < key x) :
    uniteBy key join xs (y :: ys) = y :: uniteBy key join xs ys := by
  cases xs with
  | nil => simp
  | cons x xs =>
    have hx := h x (by simp)
    rw [uniteBy, if_neg (by omega), if_pos hx]

theorem uniteBy_cons_cons {x y : β} {xs ys : List β} (h : key x = key y) :
    uniteBy key join (x :: xs) (y :: ys) = join x y :: uniteBy key join xs ys := by
  rw [uniteBy, if_neg (by omega), if_neg (by omega)]

theorem uniteBy_filterMap {place : δ → Int} {l : List δ}
    (hl : l.Pairwise fun a b => place a < place b) {f g : δ → Option β}
    (hf : ∀ a x, f a = some x → key x = place a) (hg : ∀ a x, g a = some x → key x = place a) :
    uniteBy key join (l.filterMap f) (l.filterMap g) =
      l.filterMap fun a => Option.merge join (f a) (g a) := by
  induction l with
  | nil => simp
  | cons a l ih =>
    obtain ⟨ha, hl⟩ := List.pairwise_cons.1 hl
    -- What is selected further on lies behind this element.
    have hlater : ∀ {h : δ → Option β}, (∀ a x, h a = some x → key x = place a) →
        ∀ {x : β}, key x = place a → ∀ y ∈ l.filterMap h, key x < key y := by
      intro h hh x hx y hy
      obtain ⟨b, hb, hy⟩ := List.mem_filterMap.1 hy
      rw [hx, hh b y hy]
      exact ha b hb
    simp only [List.filterMap_cons]
    cases hfa : f a with
    | none =>
      cases hga : g a with
      | none => exact ih hl
      | some y =>
        rw [uniteBy_cons_right (hlater hf (hg a y hga)), ih hl]
        rfl
    | some x =>
      cases hga : g a with
      | none =>
        rw [uniteBy_cons_left (hlater hg (hf a x hfa)), ih hl]
        rfl
      | some y =>
        rw [uniteBy_cons_cons ((hf a x hfa).trans (hg a y hga).symm), ih hl]
        rfl

namespace Index

def positionsWhere (p : String → Bool) (document : List String) : List Int :=
  document.zipIdx.filterMap fun e => if p e.1 then some (e.2 : Int) else none

def postingWhere? (p : String → Bool) (number : Nat) (document : List String) : Option Posting :=
  if document.any p then some ⟨number, document.length, positionsWhere p document⟩ else none

/-- The postings of the tokens that have a property. -/
def postingsWhere (p : String → Bool) (documents : List (List String)) : List Posting :=
  documents.zipIdx.filterMap fun e => postingWhere? p e.2 e.1

theorem positionsIn_eq_positionsWhere (term : String) (document : List String) :
    positionsIn term document = positionsWhere (· == term) document := by
  unfold positionsIn positionsWhere Roster.under
  induction document.zipIdx with
  | nil => rfl
  | cons e l ih =>
    by_cases h : e.1 = term
    · simpa [h] using ih
    · simpa [h] using ih

theorem postingsIn_eq_postingsWhere (term : String) (documents : List (List String)) :
    postingsIn term documents = postingsWhere (· == term) documents := by
  refine List.filterMap_congr fun e _ => ?_
  simp [posting?, postingWhere?, positionsIn_eq_positionsWhere]

theorem positionsWhere_congr {p q : String → Bool} {document : List String}
    (h : ∀ t ∈ document, p t = q t) : positionsWhere p document = positionsWhere q document := by
  refine List.filterMap_congr fun e he => ?_
  rw [h e.1 (List.fst_mem_of_mem_zipIdx he)]

theorem postingsWhere_congr {p q : String → Bool} {documents : List (List String)}
    (h : ∀ t ∈ documents.flatten, p t = q t) :
    postingsWhere p documents = postingsWhere q documents := by
  refine List.filterMap_congr fun e he => ?_
  have hmem : ∀ t ∈ e.1, p t = q t := fun t ht =>
    h t (List.mem_flatten.2 ⟨e.1, List.fst_mem_of_mem_zipIdx he, ht⟩)
  have hany : e.1.any p = e.1.any q := by
    rw [Bool.eq_iff_iff, List.any_eq_true, List.any_eq_true]
    exact exists_congr fun t => and_congr_right fun ht => by rw [hmem t ht]
  unfold postingWhere?
  rw [hany, positionsWhere_congr hmem]

theorem postingsWhere_false (documents : List (List String)) :
    postingsWhere (fun _ => false) documents = [] := by
  simp [postingsWhere, postingWhere?]

theorem unitePositions_positionsWhere (p q : String → Bool) (document : List String) :
    unitePositions (positionsWhere p document) (positionsWhere q document) =
      positionsWhere (fun t => p t || q t) document := by
  have hascending : document.zipIdx.Pairwise fun a b => (a.2 : Int) < b.2 :=
    (pairwise_zipIdx document 0).imp fun h => Int.ofNat_lt.2 h
  unfold unitePositions positionsWhere
  rw [uniteBy_filterMap hascending (by simp) (by simp)]
  refine List.filterMap_congr fun e _ => ?_
  cases hp : p e.1 <;> cases hq : q e.1 <;> simp [Option.merge, hp, hq]

theorem docid_of_postingWhere? {p : String → Bool} {number : Nat} {document : List String}
    {q : Posting} (h : postingWhere? p number document = some q) : q.docid = number := by
  unfold postingWhere? at h
  split at h
  · obtain rfl := Option.some.inj h
    rfl
  · cases h

theorem positionsWhere_eq_nil {p : String → Bool} {document : List String}
    (h : document.any p = false) : positionsWhere p document = [] := by
  rw [positionsWhere, List.filterMap_eq_nil_iff]
  intro e he
  have hp := List.any_eq_false.1 h e.1 (List.fst_mem_of_mem_zipIdx he)
  simp [hp]

theorem merge_postingWhere? (p q : String → Bool) (number : Nat) (document : List String) :
    Option.merge Posting.unite (postingWhere? p number document)
        (postingWhere? q number document) =
      postingWhere? (fun t => p t || q t) number document := by
  have hany : (document.any fun t => p t || q t) = (document.any p || document.any q) := by
    rw [Bool.eq_iff_iff]
    simp [and_or_left, exists_or]
  unfold postingWhere?
  rw [hany, ← unitePositions_positionsWhere]
  cases hp : document.any p <;> cases hq : document.any q <;>
    simp [Option.merge, Posting.unite, unitePositions, positionsWhere_eq_nil, hp, hq]

theorem unitePostings_postingsWhere (p q : String → Bool) (documents : List (List String)) :
    unitePostings (postingsWhere p documents) (postingsWhere q documents) =
      postingsWhere (fun t => p t || q t) documents := by
  have hascending : documents.zipIdx.Pairwise fun a b => (a.2 : Int) < b.2 :=
    (pairwise_zipIdx documents 0).imp fun h => Int.ofNat_lt.2 h
  unfold unitePostings postingsWhere
  rw [uniteBy_filterMap hascending (fun _ _ => docid_of_postingWhere?)
    fun _ _ => docid_of_postingWhere?]
  exact List.filterMap_congr fun e _ => merge_postingWhere? p q e.2 e.1

theorem foldl_unitePostings (p : String → Bool) (documents : List (List String))
    (words : List String) :
    words.foldl (fun acc w => unitePostings acc (postingsIn w documents))
        (postingsWhere p documents) =
      postingsWhere (fun t => p t || words.contains t) documents := by
  induction words generalizing p with
  | nil => simp
  | cons w words ih =>
    rw [List.foldl_cons, postingsIn_eq_postingsWhere, unitePostings_postingsWhere, ih]
    refine postingsWhere_congr fun t _ => ?_
    rw [List.contains_cons, Bool.or_assoc]

variable {documents : List (List String)} {ids : List String} {positional : Bool}

theorem mem_indexed {words : List String} {t : String} :
    t ∈ (ofDocuments documents ids positional).indexed words ↔
      t ∈ words ∧ t ∈ documents.flatten := by
  have hcontains : (ofDocuments documents ids positional).table.contains t = true ↔
      t ∈ documents.flatten := by
    change ((invert documents).place? t).isSome = true ↔ _
    rw [Option.isSome_iff_exists]
    constructor
    · intro h
      obtain ⟨i, hi⟩ := h
      exact List.mem_eraseDups.1 (List.mem_of_getElem? (place?_invert_eq_some.1 hi))
    · exact place?_invert_isSome
  unfold indexed
  rw [List.mem_filter, List.mem_eraseDups, hcontains]

theorem foldl_indexed (words : List String) :
    ((ofDocuments documents ids positional).indexed words).foldl (fun acc w =>
        unitePostings acc ((ofDocuments documents ids positional).postingsOf w).toList) [] =
      postingsWhere words.contains documents := by
  have hfold := foldl_unitePostings (fun _ => false) documents
    ((ofDocuments documents ids positional).indexed words)
  rw [postingsWhere_false] at hfold
  simp only [toList_postingsOf_ofDocuments, hfold]
  refine postingsWhere_congr fun t ht => ?_
  rw [Bool.false_or, Bool.eq_iff_iff, List.contains_iff_mem, List.contains_iff_mem, mem_indexed]
  exact and_iff_left ht

theorem merged?_ofDocuments (words : List String) (name : String) :
    (ofDocuments documents ids positional).merged? words name =
      if documents.flatten.any words.contains then
        some ⟨some (if name.isEmpty then
            "|".intercalate ((ofDocuments documents ids positional).indexed words) else name),
          (postingsWhere words.contains documents).toArray, positional⟩
      else none := by
  have hempty : ((ofDocuments documents ids positional).indexed words).isEmpty =
      !documents.flatten.any words.contains := by
    rw [Bool.eq_iff_iff, List.isEmpty_iff, List.eq_nil_iff_forall_not_mem, Bool.not_eq_true',
      List.any_eq_false]
    refine forall_congr' fun t => ?_
    rw [mem_indexed, List.contains_iff_mem]
    exact ⟨fun h ht hw => h ⟨hw, ht⟩, fun h ht => h ht.2 ht.1⟩
  unfold merged?
  simp only [hempty, foldl_indexed]
  cases documents.flatten.any words.contains <;> rfl

/-- A token, or a name in place of it if it is one of some words. -/
def renamed (words : List String) (name token : String) : String :=
  if token ∈ words then name else token

theorem renamed_eq_iff {words : List String} {name token : String} (h : token ≠ name) :
    renamed words name token = name ↔ token ∈ words := by
  unfold renamed
  split
  · simp [*]
  · simp [*]

theorem positionsIn_map_renamed {words : List String} {name : String} {document : List String}
    (hfresh : name ∉ document) :
    positionsIn name (document.map (renamed words name)) =
      positionsWhere words.contains document := by
  rw [positionsIn_eq_positionsWhere]
  unfold positionsWhere
  rw [List.zipIdx_map, List.filterMap_map]
  refine List.filterMap_congr fun e he => ?_
  have htoken := List.fst_mem_of_mem_zipIdx he
  have hiff := @renamed_eq_iff words name e.1 fun h => hfresh (h ▸ htoken)
  simp [hiff]

theorem mem_map_renamed {words : List String} {name : String} {document : List String}
    (hfresh : name ∉ document) :
    name ∈ document.map (renamed words name) ↔ document.any words.contains = true := by
  simp only [List.mem_map, List.any_eq_true, List.contains_iff_mem]
  refine exists_congr fun t => and_congr_right fun ht => ?_
  exact renamed_eq_iff fun h => hfresh (h ▸ ht)

theorem postingsIn_map_renamed {words : List String} {name : String}
    (hfresh : name ∉ documents.flatten) :
    postingsIn name (documents.map fun document => document.map (renamed words name)) =
      postingsWhere words.contains documents := by
  unfold postingsIn postingsWhere
  rw [List.zipIdx_map, List.filterMap_map]
  refine List.filterMap_congr fun e he => ?_
  have hdocument : name ∉ e.1 := fun h =>
    hfresh (List.mem_flatten.2 ⟨e.1, List.fst_mem_of_mem_zipIdx he, h⟩)
  simp [posting?, postingWhere?, mem_map_renamed hdocument, positionsIn_map_renamed hdocument]

theorem any_flatten_eq_false {words : List String} :
    documents.flatten.any words.contains = false ↔
      ∀ document ∈ documents, ∀ token ∈ document, token ∉ words := by
  simp only [List.any_eq_false, List.contains_iff_mem, List.mem_flatten]
  exact ⟨fun h document hdocument token htoken => h token ⟨document, hdocument, htoken⟩,
    fun h token ⟨document, hdocument, htoken⟩ => h document hdocument token htoken⟩

/-- What is read of an opened list from its start on. -/
def walkOf (list : Option PostingList) : Option (List (Int × Option Int × Option (List Int))) :=
  list.map fun list => (Stream.ofList list).walk

theorem walkOf_merged?_congr {words words' : List String} (h : ∀ word, word ∈ words' ↔ word ∈ words)
    (name name' : String) :
    walkOf ((ofDocuments documents ids positional).merged? words' name') =
      walkOf ((ofDocuments documents ids positional).merged? words name) := by
  have hcontains : words'.contains = words.contains := by
    funext word
    rw [Bool.eq_iff_iff, List.contains_iff_mem, List.contains_iff_mem, h]
  rw [merged?_ofDocuments, merged?_ofDocuments, hcontains]
  split
  · simp only [walkOf, Option.map_some, Stream.walk_eq]
    rfl
  · rfl

/-- Several words merged under a new name are opened as that name is opened in the index of the
documents in which it stands for each of the words. Nothing is opened exactly when no token is one
of the words, and what is read does not depend on the order of the words or on repetitions. -/
theorem merged?_eq_postings?_renamed (documents : List (List String)) (ids ids' : List String)
    (positional : Bool) (words : List String) {name : String} (hname : name ≠ "")
    (hfresh : name ∉ documents.flatten) :
    ((ofDocuments documents ids positional).merged? words name = none ↔
      ∀ document ∈ documents, ∀ token ∈ document, token ∉ words) ∧
    (ofDocuments documents ids positional).merged? words name =
      (ofDocuments (documents.map fun document => document.map (renamed words name)) ids'
        positional).postings? name ∧
    ∀ words' name', (∀ word, word ∈ words' ↔ word ∈ words) →
      walkOf ((ofDocuments documents ids positional).merged? words' name') =
        walkOf ((ofDocuments documents ids positional).merged? words name) := by
  refine ⟨?_, ?_, fun words' name' h => walkOf_merged?_congr h name name'⟩
  · rw [← any_flatten_eq_false, merged?_ofDocuments]
    cases documents.flatten.any words.contains <;> simp
  · have hmem : name ∈ (documents.map fun document => document.map (renamed words name)).flatten ↔
        documents.flatten.any words.contains = true := by
      rw [← List.map_flatten]
      exact mem_map_renamed hfresh
    have hname' : name.isEmpty = false := by simpa using hname
    rw [merged?_ofDocuments, postings?_ofDocuments, postingsIn_map_renamed hfresh]
    simp only [hmem, hname', Bool.false_eq_true, if_false]

def vehicles : List (List String) :=
  [["big", "car"], ["van", "automobile", "car"], ["tree"]]

theorem merged?_of_vehicles :
    (ofDocuments vehicles [] true).merged? ["car", "automobile", "car", "bus"] "vehicle" =
      some ⟨some "vehicle", #[⟨0, 2, [1]⟩, ⟨1, 3, [1, 2]⟩], true⟩ := by
  have hname : "vehicle" ≠ "" := by decide
  have hfresh : "vehicle" ∉ vehicles.flatten := by decide
  obtain ⟨-, hmerged, -⟩ := merged?_eq_postings?_renamed vehicles [] [] true
    ["car", "automobile", "car", "bus"] hname hfresh
  have hpostings : postingsIn "vehicle" (vehicles.map fun document =>
      document.map (renamed ["car", "automobile", "car", "bus"] "vehicle")) =
        [⟨0, 2, [1]⟩, ⟨1, 3, [1, 2]⟩] := by decide
  rw [hmerged, postings?_ofDocuments, if_pos (by decide), hpostings]

end Index
end ProximityRanking
