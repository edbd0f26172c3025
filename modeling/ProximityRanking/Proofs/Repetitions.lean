import ProximityRanking.Proofs.Accumulation
import ProximityRanking.Proofs.Gathering
/-!
Groups that list a word several times. As one merged term such a group is what it would be without
the repetitions. Split into its words it has the same words and the same streams, but the weight of
the group is added for every time that it lists the word (`Query.weightsOf`).
-/
set_option autoImplicit false

namespace ProximityRanking

variable {σ α : Type}

theorem count_eraseDups (word : String) (words : List String) :
    words.eraseDups.count word = min 1 (words.count word) := by
  by_cases hword : word ∈ words
  · have hpos : 0 < words.count word := List.count_pos_iff.2 hword
    rw [List.count_eq_one_of_mem (nodup_eraseDups _) (List.mem_eraseDups.2 hword)]
    omega
  · rw [List.count_eq_zero.2 hword, List.count_eq_zero.2 fun h => hword (List.mem_eraseDups.1 h)]
    rfl

namespace QueryTerm

def words (t : QueryTerm α) : List String :=
  if t.kind = .synonym then t.alternatives else [t.text]

def withoutRepetitions (t : QueryTerm α) : QueryTerm α :=
  if t.kind = .synonym then { t with alternatives := t.alternatives.eraseDups } else t

@[simp] theorem text_withoutRepetitions (t : QueryTerm α) :
    t.withoutRepetitions.text = t.text := by
  unfold withoutRepetitions
  split <;> rfl

@[simp] theorem weight_withoutRepetitions (t : QueryTerm α) :
    t.withoutRepetitions.weight = t.weight := by
  unfold withoutRepetitions
  split <;> rfl

@[simp] theorem words_withoutRepetitions (t : QueryTerm α) :
    t.withoutRepetitions.words = t.words.eraseDups := by
  by_cases hkind : t.kind = .synonym
  · simp [withoutRepetitions, words, hkind]
  · simp [withoutRepetitions, words, hkind, List.eraseDups_cons]

theorem requests_split (t : QueryTerm α) :
    t.requests true = t.words.map fun word => ⟨word, t.weight, .term word⟩ := by
  unfold requests words
  split <;> simp

end QueryTerm

namespace Query

/-- The weights that a word is given: that of each term, as often as the term lists the word. -/
def weightsOf (q : Query α) (word : String) : List α :=
  q.terms.flatMap fun t => List.replicate (t.words.count word) t.weight

variable [Scalar α]

def withoutRepetitions (q : Query α) : Query α :=
  ofTerms q.id (q.terms.map QueryTerm.withoutRepetitions)

theorem terms_withoutRepetitions {q : Query α} (h : q.Named) :
    q.withoutRepetitions.terms = q.terms.map QueryTerm.withoutRepetitions := by
  have htexts : (q.terms.map QueryTerm.withoutRepetitions).map QueryTerm.text =
      q.terms.map QueryTerm.text := by
    simp [Function.comp_def]
  exact terms_ofTerms (htexts ▸ h.nodup_texts)

theorem weightsOf_withoutRepetitions {q : Query α} (h : q.Named) (word : String) :
    q.withoutRepetitions.weightsOf word =
      (q.terms.filter fun t => t.words.contains word).map QueryTerm.weight := by
  simp only [weightsOf, terms_withoutRepetitions h, List.flatMap_map,
    QueryTerm.words_withoutRepetitions, QueryTerm.weight_withoutRepetitions]
  induction q.terms with
  | nil => rfl
  | cons t ts ih =>
    rw [List.flatMap_cons, ih, List.filter_cons]
    by_cases hword : word ∈ t.words
    · simp [count_eraseDups, hword]
    · simp [count_eraseDups, List.count_eq_zero.2 hword, hword]

end Query

namespace Index

theorem merged?_eraseDups (x : Index) (words : List String) (name : String) :
    x.merged? words.eraseDups name = x.merged? words name := by
  have hindexed : x.indexed words.eraseDups = x.indexed words := by
    rw [indexed, indexed, eraseDups_of_nodup (nodup_eraseDups words)]
  rw [merged?, merged?, hindexed]

end Index

namespace OpenTerm

theorem found_merged_withoutRepetitions (x : Index) (t : QueryTerm α) :
    found x.find? (t.withoutRepetitions.requests false) = found x.find? (t.requests false) := by
  by_cases hkind : t.kind = .synonym
  · have hmerged := x.merged?_eraseDups t.alternatives t.text
    simp [QueryTerm.withoutRepetitions, QueryTerm.requests, hkind, found, Index.find?,
      List.filterMap_cons, hmerged]
  · simp [QueryTerm.withoutRepetitions, hkind]

theorem found_requests (answer : Opening → Option PostingList) (q : Query α)
    (splitSynonyms : Bool) : found answer (q.requests splitSynonyms) =
      q.terms.flatMap fun t => found answer (t.requests splitSynonyms) := by
  rw [found, Query.requests, List.filterMap_flatMap]
  rfl

theorem map_text_found_split (x : Index) (q : Query α) :
    (found x.find? (q.requests true)).map OpenTerm.text =
      (q.terms.map QueryTerm.words).flatten.filter fun word => (x.postings? word).isSome := by
  rw [found_requests, List.map_flatMap, List.filter_flatten, List.map_map, ← List.flatMap_def]
  refine List.flatMap_congr fun t _ => ?_
  simp only [Function.comp_apply, QueryTerm.requests_split, found, List.filterMap_map,
    List.map_filterMap, Option.map_map]
  rw [← List.filterMap_eq_filter]
  refine List.filterMap_congr fun word _ => ?_
  cases hfound : x.postings? word <;> simp [Index.find?, Option.guard, hfound]

theorem filter_found_split {x : Index} {word : String} {list : PostingList}
    (h : x.postings? word = some list) (q : Query α) :
    (found x.find? (q.requests true)).filter (·.text == word) =
      (q.weightsOf word).map fun weight => ⟨word, weight, list⟩ := by
  rw [found_requests, Query.weightsOf, List.filter_flatMap, List.map_flatMap]
  refine List.flatMap_congr fun t _ => ?_
  rw [QueryTerm.requests_split, List.map_replicate]
  induction t.words with
  | nil => rfl
  | cons word' words ih =>
    rw [List.map_cons, found_cons, List.filter_append, ih]
    by_cases hword : word' = word
    · subst hword
      simp [found, Index.find?, h, List.replicate_succ]
    · cases hfound : x.postings? word' <;> simp [found, Index.find?, hfound, hword]

end OpenTerm

/-- Weights added up from left to right. -/
def leftSum? [Scalar α] : List α → Option α
  | [] => none
  | first :: rest => some (rest.foldl (fun sum weight => sum + weight) first)

namespace Query

theorem weightsOf_of_one_term {q : Query α} (h : q.Named) {word : String} {u : QueryTerm α}
    (hu : u ∈ q.terms) (hone : ∀ t ∈ q.terms, word ∈ t.words → t = u) :
    q.weightsOf word = List.replicate (u.words.count word) u.weight := by
  have hnodup : q.terms.Nodup := h.nodup_texts.of_map
  have hnone : ∀ t ∈ q.terms, t ≠ u → List.replicate (t.words.count word) t.weight = [] := by
    intro t ht hne
    rw [List.count_eq_zero.2 fun hword => hne (hone t ht hword), List.replicate_zero]
  obtain ⟨before, after, hterms⟩ := List.append_of_mem hu
  rw [hterms] at hnone hnodup
  have hothers : u ∉ before ++ after := (List.nodup_cons.1 (List.nodup_middle.1 hnodup)).1
  have hbefore : before.flatMap (fun t => List.replicate (t.words.count word) t.weight) = [] := by
    refine List.flatMap_eq_nil_iff.2 fun t ht => hnone t (by simp [ht]) ?_
    rintro rfl
    exact hothers (List.mem_append_left after ht)
  have hafter : after.flatMap (fun t => List.replicate (t.words.count word) t.weight) = [] := by
    refine List.flatMap_eq_nil_iff.2 fun t ht => hnone t (by simp [ht]) ?_
    rintro rfl
    exact hothers (List.mem_append_right before ht)
  rw [weightsOf, hterms, List.flatMap_append, List.flatMap_cons, hbefore, hafter,
    List.nil_append, List.append_nil]

def words (q : Query α) : List String :=
  (q.terms.flatMap QueryTerm.words).eraseDups

theorem mem_words {q : Query α} {word : String} :
    word ∈ q.words ↔ ∃ t ∈ q.terms, word ∈ t.words := by
  rw [words, List.mem_eraseDups, List.mem_flatMap]

variable [Scalar α]

theorem terms_ofTerms_singleton (id : Option String) (t : QueryTerm α) :
    (ofTerms id [t]).terms = [t] :=
  terms_ofTerms (List.nodup_singleton t.text)

theorem words_withoutRepetitions {q : Query α} (h : q.Named) :
    q.withoutRepetitions.words = q.words := by
  have hparts := eraseDups_flatMap_eraseDups (q.terms.map QueryTerm.words)
  rw [List.flatMap_map, ← List.flatMap_def] at hparts
  rw [words, words, terms_withoutRepetitions h, List.flatMap_map, ← hparts]
  simp

theorem exists_leftSum?_weightsOf {q : Query α} {word : String} (h : word ∈ q.words) :
    ∃ weight, leftSum? (q.weightsOf word) = some weight := by
  obtain ⟨t, ht, hword⟩ := mem_words.1 h
  have hweight : t.weight ∈ q.weightsOf word := by
    refine List.mem_flatMap.2 ⟨t, ht, List.mem_replicate.2 ⟨?_, rfl⟩⟩
    exact (List.count_pos_iff.2 hword).ne'
  cases hweights : q.weightsOf word with
  | nil => simp [hweights] at hweight
  | cons first rest => exact ⟨_, rfl⟩

theorem weightsOf_of_count_le_one {q : Query α} (h : q.Named) {word : String}
    (hcount : ∀ t ∈ q.terms, t.words.count word ≤ 1) :
    q.withoutRepetitions.weightsOf word = q.weightsOf word := by
  simp only [weightsOf, terms_withoutRepetitions h, List.flatMap_map,
    QueryTerm.words_withoutRepetitions, QueryTerm.weight_withoutRepetitions]
  refine List.flatMap_congr fun t ht => ?_
  rw [count_eraseDups, Nat.min_eq_right (hcount t ht)]

end Query

namespace Index

variable [Scalar α]

theorem gathered_split {x : Index} {word : String} {list : PostingList}
    (h : x.postings? word = some list) (q : Query α) :
    OpenTerm.gathered (OpenTerm.found x.find? (q.requests true)) word =
      (leftSum? (q.weightsOf word)).map fun weight => ⟨word, weight, list⟩ := by
  rw [OpenTerm.gathered, OpenTerm.filter_found_split h]
  cases q.weightsOf word with
  | nil => rfl
  | cons first rest => simp [OpenTerm.addUp, leftSum?, List.foldl_map]

theorem openTerms_split (x : Index) (q : Query α) :
    x.openTerms q true = q.words.filterMap fun word => (x.postings? word).bind fun list =>
      (leftSum? (q.weightsOf word)).map fun weight => ⟨word, weight, list⟩ := by
  rw [openTerms_eq_foldl_takeIn, OpenTerm.foldl_takeIn, OpenTerm.gather,
    OpenTerm.map_text_found_split, filter_eraseDups, List.filterMap_filter, Query.words,
    List.flatMap_def]
  refine List.filterMap_congr fun word _ => ?_
  cases hfound : x.postings? word with
  | none => simp
  | some list => simp [gathered_split hfound]

theorem texts_and_lists_openTerms_split (x : Index) (q : Query α) :
    (x.openTerms q true).map (fun o => (o.text, o.list)) = q.words.filterMap fun word =>
      (x.postings? word).map fun list => (word, list) := by
  rw [openTerms_split, List.map_filterMap]
  refine List.filterMap_congr fun word hword => ?_
  obtain ⟨weight, hweight⟩ := Query.exists_leftSum?_weightsOf hword
  cases x.postings? word <;> simp [hweight]

theorem texts_openTerms_split (x : Index) (q : Query α) :
    (x.openTerms q true).map OpenTerm.text =
      q.words.filter fun word => (x.postings? word).isSome := by
  have hfirst := congrArg (List.map Prod.fst) (x.texts_and_lists_openTerms_split q)
  rw [List.map_map, List.map_filterMap] at hfirst
  rw [← List.filterMap_eq_filter]
  refine hfirst.trans (List.filterMap_congr fun word _ => ?_)
  cases hfound : x.postings? word <;> simp [Option.guard, hfound]

theorem leftSum?_of_mem_openTerms {x : Index} {q : Query α} {o : OpenTerm α}
    (h : o ∈ x.openTerms q true) : leftSum? (q.weightsOf o.text) = some o.weight := by
  rw [openTerms_split] at h
  obtain ⟨word, -, hword⟩ := List.mem_filterMap.1 h
  obtain ⟨list, -, hlist⟩ := Option.bind_eq_some_iff.1 hword
  obtain ⟨weight, hweight, rfl⟩ := Option.map_eq_some_iff.1 hlist
  exact hweight

theorem openTerms_merged_withoutRepetitions (x : Index) {q : Query α} (h : q.Named) :
    x.openTerms q.withoutRepetitions false = x.openTerms q false := by
  rw [openTerms_eq_foldl_takeIn, openTerms_eq_foldl_takeIn, OpenTerm.found_requests,
    OpenTerm.found_requests, Query.terms_withoutRepetitions h, List.flatMap_map]
  simp only [OpenTerm.found_merged_withoutRepetitions]

end Index

namespace Phrase

theorem weights_eq_filterMap {p : Phrase α} {f : String → Option α}
    (h : ∀ t ∈ p.terms, f t.text = some t.weight) :
    p.terms.map PhraseTerm.weight = (p.terms.map PhraseTerm.text).filterMap f := by
  rw [List.filterMap_map, ← List.filterMap_eq_map]
  exact (List.filterMap_congr h).symm

theorem Opens.same_but_for_weights {x : Index} {p p' : Phrase α} {s s' : Session σ α}
    {os os' : List (OpenTerm α)} (h : p.Opens x s os) (h' : p'.Opens x s' os')
    (hpairs : os.map (fun o => (o.text, o.list)) = os'.map fun o => (o.text, o.list)) :
    p.terms.map PhraseTerm.text = p'.terms.map PhraseTerm.text ∧
      p.streamsIn s = p'.streamsIn s' := by
  have htexts := congrArg (List.map Prod.fst) hpairs
  have hstreams := congrArg (List.map fun e => Stream.ofList e.2) hpairs
  simp only [List.map_map, Function.comp_def] at htexts hstreams
  rw [h.texts_eq, h'.texts_eq, h.streams_eq, h'.streams_eq]
  exact ⟨htexts, hstreams⟩

variable [Scalar α]

theorem Opens.leftSum?_weightsOf {x : Index} {q : Query α} {p : Phrase α} {s : Session σ α}
    (h : p.Opens x s (x.openTerms q true)) :
    ∀ t ∈ p.terms, leftSum? (q.weightsOf t.text) = some t.weight := by
  intro t ht
  obtain ⟨o, ho, hopen⟩ := h.exists_opened ht
  rw [hopen.text, hopen.weight]
  exact Index.leftSum?_of_mem_openTerms ho

theorem Opens.weight_of_one_term {x : Index} {q : Query α} {p : Phrase α} {s : Session σ α}
    (h : p.Opens x s (x.openTerms q true)) (hq : q.Named) {u : QueryTerm α} (hu : u ∈ q.terms)
    {t : PhraseTerm α} (ht : t ∈ p.terms) (hword : t.text ∈ u.words)
    (hone : ∀ v ∈ q.terms, t.text ∈ v.words → v = u) :
    t.weight = (List.replicate (u.words.count t.text - 1) u.weight).foldl
      (fun sum weight => sum + weight) u.weight := by
  have hpos : 0 < u.words.count t.text := List.count_pos_iff.2 hword
  obtain ⟨k, hk⟩ : ∃ k, u.words.count t.text = k + 1 := ⟨_, (Nat.succ_pred_eq_of_pos hpos).symm⟩
  have hsum := h.leftSum?_weightsOf t ht
  rw [Query.weightsOf_of_one_term hq hu hone, hk, List.replicate_succ] at hsum
  rw [hk, Nat.add_sub_cancel]
  exact (Option.some.inj hsum).symm

theorem Opens.weight_withoutRepetitions_of_one_term {x : Index} {q : Query α} {p : Phrase α}
    {s : Session σ α} (h : p.Opens x s (x.openTerms q.withoutRepetitions true)) (hq : q.Named)
    {u : QueryTerm α} (hu : u ∈ q.terms) {t : PhraseTerm α} (ht : t ∈ p.terms)
    (hword : t.text ∈ u.words) (hone : ∀ v ∈ q.terms, t.text ∈ v.words → v = u) :
    t.weight = u.weight := by
  have hterms := Query.terms_withoutRepetitions hq
  have hu' : u.withoutRepetitions ∈ q.withoutRepetitions.terms := by
    rw [hterms]
    exact List.mem_map_of_mem hu
  have hone' : ∀ v ∈ q.withoutRepetitions.terms, t.text ∈ v.words →
      v = u.withoutRepetitions := by
    intro v hv hlisted
    rw [hterms] at hv
    obtain ⟨v₁, hv₁, rfl⟩ := List.mem_map.1 hv
    rw [QueryTerm.words_withoutRepetitions, List.mem_eraseDups] at hlisted
    rw [hone v₁ hv₁ hlisted]
  have hweight := h.weight_of_one_term (Query.Named.ofTerms _ _) hu' ht (by simpa using hword)
    hone'
  have hpos : 1 ≤ u.words.count t.text := List.count_pos_iff.2 hword
  simpa [count_eraseDups, Nat.min_eq_left hpos] using hweight

/-- A query may be given with every group once as it is and once without the repetitions in it.
Opening it succeeds in both cases, and the two phrases have the same texts and the same streams.
They have the same weights when groups are opened as merged terms. When groups are split, the texts
are the indexed words in the order in which they first come; a word's weight adds up, from left to
right, the weight of each term as often as that term lists the word, and without repetitions the
weight of each term that lists it. So the weights are the same as long as no term lists a word of
the phrase twice, and a word of one term alone weighs as much as that term without repetitions, and
that weight added up as often as the term lists the word otherwise. -/
theorem repetitions_change_weights_only (x : Index) (id : Option String)
    (ts : List (QueryTerm α)) (splitSynonyms : Bool) (s : Session σ α) :
    ∃ p p' s₁ s₂,
      (ofQuery x.source (Query.ofTerms id ts) splitSynonyms).exec s = (.ok p, s₁) ∧
      (ofQuery x.source (Query.ofTerms id ts).withoutRepetitions splitSynonyms).exec s =
        (.ok p', s₂) ∧
      p.terms.map PhraseTerm.text = p'.terms.map PhraseTerm.text ∧
      p.streamsIn s₁ = p'.streamsIn s₂ ∧
      (splitSynonyms = false →
        p.terms.map PhraseTerm.weight = p'.terms.map PhraseTerm.weight) ∧
      (splitSynonyms = true →
        p.terms.map PhraseTerm.text =
          ((Query.ofTerms id ts).words.filter fun word => (x.postings? word).isSome) ∧
        (∀ t ∈ p.terms, leftSum? ((Query.ofTerms id ts).terms.flatMap fun u =>
          List.replicate (u.words.count t.text) u.weight) = some t.weight) ∧
        (∀ t ∈ p'.terms, leftSum? (((Query.ofTerms id ts).terms.filter fun u =>
          u.words.contains t.text).map QueryTerm.weight) = some t.weight) ∧
        ((∀ t ∈ p.terms, ∀ u ∈ (Query.ofTerms id ts).terms, u.words.count t.text ≤ 1) →
          p.terms.map PhraseTerm.weight = p'.terms.map PhraseTerm.weight) ∧
        ∀ u ∈ (Query.ofTerms id ts).terms, ∀ word ∈ u.words,
          (∀ v ∈ (Query.ofTerms id ts).terms, word ∈ v.words → v = u) →
          (∀ t ∈ p'.terms, t.text = word → t.weight = u.weight) ∧
          ∀ t ∈ p.terms, t.text = word → t.weight =
            (List.replicate (u.words.count word - 1) u.weight).foldl
              (fun sum weight => sum + weight) u.weight) := by
  generalize hq : Query.ofTerms id ts = q
  have hnamed : q.Named := hq ▸ Query.Named.ofTerms id ts
  obtain ⟨p, s₁, hrun, hopens, -⟩ := exec_ofQuery x q splitSynonyms s
  obtain ⟨p', s₂, hrun', hopens', -⟩ := exec_ofQuery x q.withoutRepetitions splitSynonyms s
  refine ⟨p, p', s₁, s₂, hrun, hrun', ?_⟩
  cases splitSynonyms with
  | false =>
    rw [x.openTerms_merged_withoutRepetitions hnamed] at hopens'
    refine ⟨hopens.texts_eq.trans hopens'.texts_eq.symm,
      hopens.streams_eq.trans hopens'.streams_eq.symm, fun _ => ?_, nofun⟩
    exact hopens.weights_eq.trans hopens'.weights_eq.symm
  | true =>
    have hpairs := x.texts_and_lists_openTerms_split q.withoutRepetitions
    rw [Query.words_withoutRepetitions hnamed, ← x.texts_and_lists_openTerms_split q] at hpairs
    obtain ⟨htexts, hstreams⟩ := hopens.same_but_for_weights hopens' hpairs.symm
    have hweights := hopens.leftSum?_weightsOf
    have hweights' := hopens'.leftSum?_weightsOf
    refine ⟨htexts, hstreams, nofun, fun _ => ⟨?_, hweights, ?_, fun hcount => ?_, ?_⟩⟩
    · rw [hopens.texts_eq]
      exact x.texts_openTerms_split q
    · intro t ht
      rw [← Query.weightsOf_withoutRepetitions hnamed]
      exact hweights' t ht
    · rw [weights_eq_filterMap (f := fun word => leftSum? (q.weightsOf word)) hweights,
        weights_eq_filterMap (f := fun word => leftSum? (q.withoutRepetitions.weightsOf word))
          hweights', ← htexts]
      refine List.filterMap_congr fun word hword => ?_
      obtain ⟨t, ht, rfl⟩ := List.mem_map.1 hword
      rw [Query.weightsOf_of_count_le_one hnamed (hcount t ht)]
    · intro u hu word hword hone
      constructor
      · rintro t ht rfl
        exact hopens'.weight_withoutRepetitions_of_one_term hnamed hu ht hword hone
      · rintro t ht rfl
        exact hopens.weight_of_one_term hnamed hu ht hword hone

theorem repetitions_change_weights_only_of_three_words :
    ∃ (p p' : Phrase Float) (s₁ s₂ : Session Unit Float),
      (ofQuery (Index.ofDocuments [["a", "b"]] [] true).source
        (.ofTerms none [.synonym ["a", "b", "a"] 2.0]) true).exec (.start Float ()) =
          (.ok p, s₁) ∧
      (ofQuery (Index.ofDocuments [["a", "b"]] [] true).source
        (Query.ofTerms none [.synonym ["a", "b", "a"] 2.0]).withoutRepetitions true).exec
          (.start Float ()) = (.ok p', s₂) ∧
      p.terms.map PhraseTerm.text = ["a", "b"] ∧
      (∀ t ∈ p'.terms, t.text = "a" → t.weight = 2.0) ∧
      ∀ t ∈ p.terms, t.text = "a" → t.weight = 4.0 := by
  obtain ⟨p, p', s₁, s₂, hrun, hrun', -, -, -, hsplit⟩ := repetitions_change_weights_only
    (Index.ofDocuments [["a", "b"]] [] true) none [.synonym ["a", "b", "a"] (2.0 : Float)] true
    (.start Float ())
  obtain ⟨htexts, -, -, -, hone⟩ := hsplit rfl
  have hterms := Query.terms_ofTerms_singleton none
    (QueryTerm.synonym ["a", "b", "a"] (2.0 : Float))
  have hwords : (QueryTerm.synonym ["a", "b", "a"] (2.0 : Float)).words = ["a", "b", "a"] := rfl
  obtain ⟨hweight', hweight⟩ := hone (.synonym ["a", "b", "a"] 2.0) (by simp [hterms]) "a"
    (by simp [hwords]) (by simp [hterms])
  refine ⟨p, p', s₁, s₂, hrun, hrun', ?_, hweight', fun t ht htext => ?_⟩
  · have ha : Index.postingsIn "a" [["a", "b"]] = [⟨0, 2, [0]⟩] := by decide
    have hb : Index.postingsIn "b" [["a", "b"]] = [⟨0, 2, [1]⟩] := by decide
    rw [htexts, Query.words, hterms]
    simp [hwords, Index.postings?_ofDocuments, ha, hb, List.eraseDups_cons]
  · rw [hweight t ht htext, hwords]
    decide

/-- A word that a group lists twice weighs twice as much as it would without the repetition. -/
theorem weights_of_repeated_word :
    ∃ (p p' : Phrase Float) (s₁ s₂ : Session Unit Float),
      (ofQuery (Index.ofDocuments [["a", "b"]] [] true).source
        (.ofTerms none [.synonym ["a", "a"] 2.0]) true).exec (.start Float ()) = (.ok p, s₁) ∧
      (ofQuery (Index.ofDocuments [["a", "b"]] [] true).source
        (Query.ofTerms none [.synonym ["a", "a"] 2.0]).withoutRepetitions true).exec
          (.start Float ()) = (.ok p', s₂) ∧
      p.terms.map PhraseTerm.weight = [4.0] ∧ p'.terms.map PhraseTerm.weight = [2.0] ∧
      (4.0 : Float) ≠ 2.0 := by
  obtain ⟨p, s₁, hrun, hopens, -⟩ := exec_ofQuery (Index.ofDocuments [["a", "b"]] [] true)
    (.ofTerms none [.synonym ["a", "a"] (2.0 : Float)]) true (.start Float ())
  obtain ⟨p', s₂, hrun', hopens', -⟩ := exec_ofQuery (Index.ofDocuments [["a", "b"]] [] true)
    (Query.ofTerms none [.synonym ["a", "a"] (2.0 : Float)]).withoutRepetitions true
    (.start Float ())
  have hnamed := Query.Named.ofTerms none [QueryTerm.synonym ["a", "a"] (2.0 : Float)]
  have hterms := Query.terms_ofTerms_singleton none
    (QueryTerm.synonym ["a", "a"] (2.0 : Float))
  have hwords : (QueryTerm.synonym ["a", "a"] (2.0 : Float)).words = ["a", "a"] := rfl
  have ha : Index.postingsIn "a" [["a", "b"]] = [⟨0, 2, [0]⟩] := by decide
  have hsum : (2.0 : Float) + 2.0 = 4.0 := by decide
  refine ⟨p, p', s₁, s₂, hrun, hrun', ?_, ?_, by decide⟩
  · rw [hopens.weights_eq, Index.openTerms_split]
    simp [Query.words, Query.weightsOf, hterms, hwords, Index.postings?_ofDocuments, ha,
      List.eraseDups_cons, leftSum?]
    exact hsum
  · rw [hopens'.weights_eq, Index.openTerms_split, Query.words_withoutRepetitions hnamed]
    simp [Query.words, Query.weightsOf_withoutRepetitions hnamed, hterms, hwords,
      Index.postings?_ofDocuments, ha, List.eraseDups_cons, leftSum?]
    rfl

end Phrase
end ProximityRanking
