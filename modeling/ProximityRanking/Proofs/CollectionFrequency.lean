import Mathlib.Data.List.Basic
import ProximityRanking.Proofs.Meetings
import ProximityRanking.Proofs.Reopening
/-!
The collection frequency of a pair. What the preparation of the Markov random field counts with two
streams for each pair is what counting document by document gives: each document that has tokens of
both terms is asked about once. The mean over the pairs, at least one, is the frequency, unless it
is too large to be a number.
-/
set_option autoImplicit false

namespace ProximityRanking

-- Sums start from the zero of core, whatever else is imported.
attribute [local instance (high)] Zero.ofOfNat0

variable {σ α : Type}

/-- The places of the pairs among `n` terms. -/
def Pairing.places : Pairing → Nat → List (Nat × Nat)
  | .adjacent, n => (List.range (n - 1)).map fun i => (i, i + 1)
  | .every, n => (List.range n).flatMap fun i =>
    ((List.range n).filter (i < ·)).map fun j => (i, j)

theorem adjacentPairs_range' (k n : Nat) :
    adjacentPairs (List.range' k n) = (List.range' k (n - 1)).map fun i => (i, i + 1) := by
  induction n generalizing k with
  | zero => rfl
  | succ n ih =>
    cases n with
    | zero => rfl
    | succ n =>
      have hrest := ih (k + 1)
      rw [List.range'_succ] at hrest
      rw [List.range'_succ, List.range'_succ, adjacentPairs, hrest, Nat.add_sub_cancel,
        Nat.add_sub_cancel, List.range'_succ, List.map_cons]

theorem everyPair_range' (k n : Nat) :
    everyPair (List.range' k n) = (List.range' k n).flatMap fun i =>
      ((List.range' k n).filter (i < ·)).map fun j => (i, j) := by
  induction n generalizing k with
  | zero => rfl
  | succ n ih =>
    have hlater : ∀ j ∈ List.range' (k + 1) n, k < j := fun j hj => (List.mem_range'_1.1 hj).1
    have hfirst : (List.range' (k + 1) n).filter (k < ·) = List.range' (k + 1) n :=
      List.filter_eq_self.2 fun j hj => decide_eq_true (hlater j hj)
    rw [List.range'_succ, everyPair, ih, List.flatMap_cons]
    congr 1
    · simp [hfirst]
    · refine List.flatMap_congr fun i hi => ?_
      have hnot : ¬ i < k := by
        have := hlater i hi
        omega
      simp [hnot]

theorem Pairing.pairs_range (pairing : Pairing) (n : Nat) :
    pairing.pairs (List.range n) = pairing.places n := by
  rw [List.range_eq_range']
  cases pairing with
  | adjacent => rw [pairs, adjacentPairs_range', places, List.range_eq_range']
  | every => rw [pairs, everyPair_range', places, List.range_eq_range']

theorem Pairing.pairs_eq_places {β γ : Type} (pairing : Pairing) {l : List β} {f : β → γ}
    {g : Nat → γ} (h : ∀ i b, l[i]? = some b → f b = g i) :
    pairing.pairs (l.map f) = (pairing.places l.length).map (Prod.map g g) := by
  have hmap : l.map f = (List.range l.length).map g := by
    refine List.ext_getElem (by simp) fun i hi _ => ?_
    rw [List.getElem_map, List.getElem_map, List.getElem_range]
    exact h i _ (List.getElem?_eq_getElem _)
  rw [hmap, pairs_map, pairs_range]

theorem Pairing.length_places (pairing : Pairing) (n : Nat) :
    (pairing.places n).length =
      match pairing with
      | .adjacent => n - 1
      | .every => n * (n - 1) / 2 := by
  rw [← pairs_range]
  cases pairing with
  | adjacent =>
    rw [pairs, length_adjacentPairs, List.length_range]
  | every =>
    have hlength := two_mul_length_everyPair (List.range n)
    rw [List.length_range] at hlength
    rw [pairs, ← hlength, Nat.mul_div_cancel_left _ (by decide)]

theorem exists_map_some {β : Type} {l : List (Option β)} (h : ∀ o ∈ l, o.isSome = true) :
    ∃ l', List.map some l' = l := by
  induction l with
  | nil => exact ⟨[], rfl⟩
  | cons o l ih =>
    obtain ⟨ho, hl⟩ := List.forall_mem_cons.1 h
    obtain ⟨b, rfl⟩ := Option.isSome_iff_exists.1 ho
    obtain ⟨l', rfl⟩ := ih hl
    exact ⟨b :: l', rfl⟩

theorem map_place_pairsIn (pairing : Pairing) {terms : List (OpenTerm α)} {docid : Int}
    (h : ∀ t ∈ terms, (t.list.lookUp docid).isSome = true) :
    (pairsIn pairing terms docid).map (fun pair => (pair.1.place, pair.2.place)) =
      pairing.places terms.length := by
  have hsome : ∀ o ∈ occurrences terms docid, o.isSome = true := by
    intro o ho
    obtain ⟨e, he, rfl⟩ := List.mem_map.1 ho
    rw [occurrenceOf, Option.isSome_map]
    exact h e.1 (List.fst_mem_of_mem_zipIdx he)
  obtain ⟨found, hfound⟩ : ∃ found : List (Occurrence α),
      found.map some = occurrences terms docid := exists_map_some hsome
  have hplaces : found.map Occurrence.place = List.range terms.length := by
    refine List.map_injective_iff.2 (Option.some_injective Nat) ?_
    have hmap := congrArg (List.map (Option.map Occurrence.place)) hfound
    rw [List.map_map] at hmap
    rw [List.map_map]
    refine hmap.trans ?_
    rw [occurrences, List.map_map, List.range_eq_range', ← List.zipIdx_map_snd 0 terms,
      List.map_map]
    refine List.map_congr_left fun e he => ?_
    obtain ⟨posting, hposting⟩ :=
      Option.isSome_iff_exists.1 (h e.1 (List.fst_mem_of_mem_zipIdx he))
    simp [occurrenceOf, hposting]
  have hpairs : pairsIn pairing terms docid = pairing.pairs found := by
    rw [pairsIn, ← hfound, Pairing.pairs_map, List.filterMap_map]
    exact List.filterMap_some
  rw [hpairs, ← Pairing.pairs_range, ← hplaces, Pairing.pairs_map]
  rfl

def Opening.covers : Opening → String → Bool
  | .term text => (· == text)
  | .merged words _ => words.contains

theorem Index.toList_postings_of_find? {documents : List (List String)} {ids : List String}
    {positional : Bool} {opening : Opening} {list : PostingList}
    (h : (ofDocuments documents ids positional).find? opening = some list) :
    list.postings.toList = postingsWhere opening.covers documents := by
  cases opening with
  | term text =>
    obtain ⟨-, rfl⟩ := postings?_ofDocuments_eq_some.1 h
    exact postingsIn_eq_postingsWhere text documents
  | merged words name =>
    rw [find?, merged?_ofDocuments] at h
    split at h
    · obtain rfl := Option.some.inj h
      rfl
    · cases h

namespace Scoring

def pairTotal (answer : CountRequest → Except Failure Int) (pairing : Pairing) (window : Int)
    (documents : List (List String)) (p q : String → Bool) : Except Failure Int :=
  ((joinPostings (Index.postingsWhere p documents) (Index.postingsWhere q documents)).mapM
    fun both => answer (requestFor pairing window both)).map List.sum

structure Counts (s s' : Session σ α) : Prop where
  scorer : s'.scorer = s.scorer
  leaves : s.Leaves s' []

theorem Counts.trans {s s' s'' : Session σ α} (h : Counts s s') (h' : Counts s' s'') :
    Counts s s'' :=
  ⟨h'.scorer.trans h.scorer, h.leaves.trans h'.leaves⟩

section Index

variable {documents : List (List String)} {ids : List String} {phrase : Phrase α}
  {counter : PairCounter} {answer : CountRequest → Except Failure Int}
  (hdocuments : documents.length < 2 ^ 63)
  (hsource : phrase.source = (Index.ofDocuments documents ids true).source)
  (hcounter : counter.Answers answer)

include hdocuments hsource hcounter

theorem exec_pairFrequency (pairing : Pairing) (window : Int) {x y : PhraseTerm α}
    (hx : ((Index.ofDocuments documents ids true).find? x.opening).isSome = true)
    (hy : ((Index.ofDocuments documents ids true).find? y.opening).isSome = true)
    (s : Session σ α) :
    ∃ s', (pairFrequency phrase counter pairing window x y).exec s =
        (pairTotal answer pairing window documents x.opening.covers y.opening.covers, s') ∧
      Counts s s' := by
  obtain ⟨first, hfirst⟩ := Option.isSome_iff_exists.1 hx
  obtain ⟨second, hsecond⟩ := Option.isSome_iff_exists.1 hy
  have hanswers : phrase.source.Answers (Index.ofDocuments documents ids true).find? := by
    rw [hsource]
    exact Index.answers_source _
  have hmeet := forall₂_meetings (.step_ofList (Index.ascends_of_find? hdocuments hfirst))
    (.step_ofList (Index.ascends_of_find? hdocuments hsecond))
  rw [Stream.step_list, Stream.step_list, Stream.ahead_step_ofList, Stream.ahead_step_ofList,
    Index.toList_postings_of_find? hfirst, Index.toList_postings_of_find? hsecond] at hmeet
  obtain ⟨answered, hrun⟩ := exec_countMeetings hcounter (Index.find?_ofDocuments hfirst).2
    (Index.find?_ofDocuments hsecond).2 pairing window hmeet ((s.handOut first).handOut second)
  have hsize : (s.handOut first).opened.size = s.opened.size + 1 := by simp [Session.handOut]
  have hstream : ((s.handOut first).handOut second).stream s.opened.size = .ofList first := by
    rw [Session.stream_handOut_of_lt (by omega), Session.stream_handOut_self]
  unfold pairFrequency
  rw [SessionM.exec_bind_of_ok (Phrase.exec_reopen_of_answers hanswers hfirst s),
    SessionM.exec_bind_of_ok (Phrase.exec_reopen_of_answers hanswers hsecond _),
    SessionM.exec_andFinally_modify, SessionM.exec_bind_of_ok (SessionM.exec_get _), hstream,
    Session.stream_handOut_self, hrun, hsize]
  exact ⟨_, rfl, rfl, .closeStream_closeStream rfl⟩

theorem exec_pairFrequencies (pairing : Pairing) (window : Int)
    {pairs : List (PhraseTerm α × PhraseTerm α)}
    (hpairs : ∀ pair ∈ pairs,
      ((Index.ofDocuments documents ids true).find? pair.1.opening).isSome = true ∧
      ((Index.ofDocuments documents ids true).find? pair.2.opening).isSome = true)
    (s : Session σ α) :
    ∃ s', (pairFrequencies phrase counter pairing window pairs).exec s =
        (pairs.mapM fun pair => pairTotal answer pairing window documents pair.1.opening.covers
          pair.2.opening.covers, s') ∧
      Counts s s' := by
  induction pairs generalizing s with
  | nil => exact ⟨s, rfl, rfl, .of_opened_eq rfl⟩
  | cons pair rest ih =>
    obtain ⟨⟨hx, hy⟩, hrest⟩ := List.forall_mem_cons.1 hpairs
    obtain ⟨s₁, hpair, hcounts⟩ :=
      exec_pairFrequency hdocuments hsource hcounter pairing window hx hy s
    rw [List.mapM_cons]
    cases htotal : pairTotal answer pairing window documents pair.1.opening.covers
        pair.2.opening.covers with
    | error e =>
      rw [htotal] at hpair
      exact ⟨s₁, SessionM.exec_bind_of_error hpair _, hcounts⟩
    | ok n =>
      rw [htotal] at hpair
      obtain ⟨s₂, hrun, hcounts'⟩ := ih hrest s₁
      refine ⟨s₂, ?_, hcounts.trans hcounts'⟩
      rw [exec_pairFrequencies_of_ok hpair, hrun]
      cases rest.mapM fun pair => pairTotal answer pairing window documents
        pair.1.opening.covers pair.2.opening.covers <;> rfl

end Index

/-- How a preparation ends, and in which state, when the totals of its pairs are known. -/
def estimate [Scalar α] (context : Context α) :
    Except Failure (List Int) → Except Failure Unit × Binding α
  | .error e => (.error e, .bound context)
  | .ok totals =>
    match (Scalar.ratio? totals.sum totals.length : Option α) with
    | none => (.error .ratioTooLarge, .bound context)
    | some mean => (.ok (), ⟨some context, Scalar.greatest mean 1.0⟩)

theorem estimate_of_none [Scalar α] {totals : List Int}
    (h : (Scalar.ratio? totals.sum totals.length : Option α) = none) (context : Context α) :
    estimate context (.ok totals) = (.error .ratioTooLarge, .bound context) := by
  rw [estimate, h]

theorem estimate_of_some [Scalar α] {totals : List Int} {mean : α}
    (h : Scalar.ratio? totals.sum totals.length = some mean) (context : Context α) :
    estimate context (.ok totals) = (.ok (), ⟨some context, Scalar.greatest mean 1.0⟩) := by
  rw [estimate, h]

theorem exec_prepareMarkovField_of_pairFrequencies [Scalar α] {phrase : Phrase α}
    {counter : PairCounter} {pairing : Pairing} {context : Context α}
    {totals : Except Failure (List Int)} {s s₁ : Session (Binding α) α} (hsize : 2 ≤ phrase.size)
    (h : (pairFrequencies phrase counter pairing context.window
      (pairing.pairs phrase.terms)).exec { s with scorer := Binding.bound context } =
        (totals, s₁))
    (hcounts : Counts { s with scorer := Binding.bound context } s₁) :
    ∃ s', (prepareMarkovField ⟨context, pairing, some (phrase, counter)⟩).exec s =
        ((estimate context totals).1, s') ∧
      s'.scorer = (estimate context totals).2 ∧ s.Leaves s' [] := by
  have hscorer := hcounts.scorer
  cases totals with
  | error e => exact ⟨s₁, exec_prepareMarkovField_of_error h, hscorer, hcounts.leaves⟩
  | ok totals =>
    have hsize' : ¬ phrase.size < 2 := by omega
    unfold prepareMarkovField
    rw [SessionM.exec_bind_of_ok (SessionM.exec_onScorer_set _ s)]
    simp only [hsize', if_false]
    rw [SessionM.exec_bind_of_ok h]
    cases hratio : (Scalar.ratio? totals.sum totals.length : Option α) with
    | none =>
      rw [estimate_of_none hratio]
      exact ⟨s₁, rfl, hscorer, hcounts.leaves⟩
    | some mean =>
      rw [estimate_of_some hratio]
      refine ⟨_, rfl, ?_, hcounts.leaves⟩
      simp only [Session.report, hscorer]
      rfl

theorem exec_prepareMarkovField [Scalar α] {documents : List (List String)}
    (hdocuments : documents.length < 2 ^ 63) {ids : List String} {phrase : Phrase α}
    {s₁ : Session σ α} {terms : List (OpenTerm α)}
    (hopens : phrase.Opens (Index.ofDocuments documents ids true) s₁ terms)
    (hsize : 2 ≤ phrase.size) {counter : PairCounter}
    {answer : CountRequest → Except Failure Int} (hcounter : counter.Answers answer)
    (pairing : Pairing) (context : Context α) (s : Session (Binding α) α) :
    ∃ s', (prepareMarkovField ⟨context, pairing, some (phrase, counter)⟩).exec s =
        ((estimate context ((pairing.pairs phrase.terms).mapM fun pair =>
          pairTotal answer pairing context.window documents pair.1.opening.covers
            pair.2.opening.covers)).1, s') ∧
      s'.scorer = (estimate context ((pairing.pairs phrase.terms).mapM fun pair =>
        pairTotal answer pairing context.window documents pair.1.opening.covers
          pair.2.opening.covers)).2 ∧
      s.Leaves s' [] := by
  have hfound : ∀ t ∈ phrase.terms,
      ((Index.ofDocuments documents ids true).find? t.opening).isSome = true := by
    intro t ht
    obtain ⟨o, -, hshow⟩ := hopens.exists_opened ht
    simp [hshow.opening]
  have hpairs : ∀ pair ∈ pairing.pairs phrase.terms,
      ((Index.ofDocuments documents ids true).find? pair.1.opening).isSome = true ∧
      ((Index.ofDocuments documents ids true).find? pair.2.opening).isSome = true :=
    fun pair hpair => (pairing.mem_of_mem_pairs hpair).imp (hfound _) (hfound _)
  obtain ⟨s', hrun, hcounts⟩ := exec_pairFrequencies hdocuments hopens.source hcounter pairing
    context.window hpairs { s with scorer := Binding.bound context }
  exact exec_prepareMarkovField_of_pairFrequencies hsize hrun hcounts

def documentTotal (count : CountRequest → Int) (pairing : Pairing) (window : Int)
    (p q : String → Bool) (document : List String) : Int :=
  if document.any p && document.any q then
    count ⟨pairing, Index.positionsWhere p document, Index.positionsWhere q document, window,
      document.length⟩
  else 0

theorem sum_filterMap {β : Type} (f : β → Option Int) (l : List β) :
    (l.filterMap f).sum = (l.map fun b => (f b).getD 0).sum := by
  induction l with
  | nil => rfl
  | cons b l ih =>
    rw [List.map_cons, List.sum_cons, ← ih]
    cases hb : f b with
    | none => rw [List.filterMap_cons_none hb, Option.getD_none, Int.zero_add]
    | some n => rw [List.filterMap_cons_some hb, List.sum_cons, Option.getD_some]

theorem pairTotal_of_forall_ok {answer : CountRequest → Except Failure Int}
    {count : CountRequest → Int} (h : ∀ request, answer request = .ok (count request))
    (pairing : Pairing) (window : Int) (documents : List (List String)) (p q : String → Bool) :
    pairTotal answer pairing window documents p q =
      .ok (documents.map (documentTotal count pairing window p q)).sum := by
  have hanswer : (fun both => answer (requestFor pairing window both)) =
      fun both => (pure (count (requestFor pairing window both)) : Except Failure Int) :=
    funext fun both => h _
  have hdocuments : documents.map (documentTotal count pairing window p q) =
      documents.zipIdx.map fun e => documentTotal count pairing window p q e.1 := by
    conv_lhs => rw [← List.zipIdx_map_fst 0 documents, List.map_map]
    rfl
  unfold pairTotal
  rw [hanswer, List.mapM_pure, joinPostings_postingsWhere, List.map_filterMap, hdocuments]
  refine congrArg Except.ok ((sum_filterMap _ _).trans ?_)
  congr 1
  refine List.map_congr_left fun e _ => ?_
  unfold documentTotal requestFor
  split <;> rfl

end Scoring

/-- Whether a token is one of those of the term at a place. -/
def Phrase.covers (p : Phrase α) (i : Nat) (token : String) : Bool :=
  p.terms[i]?.any (·.opening.covers token)

theorem Phrase.covers_of_getElem? {p : Phrase α} {i : Nat} {t : PhraseTerm α}
    (h : p.terms[i]? = some t) : t.opening.covers = p.covers i := by
  funext token
  simp [covers, h]

theorem Phrase.Opens.isSome_lookUp {documents : List (List String)} {ids : List String}
    {positional : Bool} {phrase : Phrase α} {s : Session σ α} {terms : List (OpenTerm α)}
    (h : phrase.Opens (Index.ofDocuments documents ids positional) s terms) {d : Nat}
    {document : List String} (hd : documents[d]? = some document)
    (hcovers : ∀ i < phrase.size, document.any (phrase.covers i) = true) :
    ∀ t ∈ terms, (t.list.lookUp d).isSome = true := by
  intro t ht
  obtain ⟨i, hi, rfl⟩ := List.mem_iff_getElem.1 ht
  have hi' : i < phrase.terms.length := by
    rw [h.terms.length_eq]
    exact hi
  have hshow := h.terms.get hi' hi
  simp only [List.get_eq_getElem] at hshow
  have hany := hcovers i hi'
  rw [← Phrase.covers_of_getElem? (List.getElem?_eq_getElem hi')] at hany
  unfold PostingList.lookUp
  rw [Index.toList_postings_of_find? hshow.opening, List.find?_isSome]
  refine ⟨⟨d, document.length, Index.positionsWhere phrase.terms[i].opening.covers document⟩, ?_,
    beq_self_eq_true _⟩
  refine List.mem_filterMap.2 ⟨(document, d), List.mk_mem_zipIdx_iff_getElem?.2 hd, ?_⟩
  rw [Index.postingWhere?, if_pos hany]

namespace Scoring

/-- The matching windows of each scored pair, document by document. -/
def pairTotals (count : CountRequest → Int) (pairing : Pairing) (window : Int)
    (documents : List (List String)) (phrase : Phrase α) : List Int :=
  (pairing.places phrase.size).map fun (i, j) =>
    (documents.map (documentTotal count pairing window (phrase.covers i) (phrase.covers j))).sum

theorem mapM_pairTotal_of_forall_ok {answer : CountRequest → Except Failure Int}
    {count : CountRequest → Int} (h : ∀ request, answer request = .ok (count request))
    (pairing : Pairing) (window : Int) (documents : List (List String)) (phrase : Phrase α) :
    ((pairing.pairs phrase.terms).mapM fun pair => pairTotal answer pairing window documents
      pair.1.opening.covers pair.2.opening.covers) =
        .ok (pairTotals count pairing window documents phrase) := by
  have hpairs := pairing.pairs_eq_places (l := phrase.terms) (f := fun t => t.opening.covers)
    (g := phrase.covers) fun i t ht => Phrase.covers_of_getElem? ht
  rw [Pairing.pairs_map] at hpairs
  have htotals := congrArg (List.map fun pair : (String → Bool) × (String → Bool) =>
    (documents.map (documentTotal count pairing window pair.1 pair.2)).sum) hpairs
  rw [List.map_map, List.map_map] at htotals
  simp only [pairTotal_of_forall_ok h]
  exact List.mapM_pure.trans (congrArg Except.ok htotals)

theorem exec_prepareMarkovField_of_forall_ok [Scalar α] {documents : List (List String)}
    (hdocuments : documents.length < 2 ^ 63) {ids : List String} {phrase : Phrase α}
    {s₁ : Session σ α} {terms : List (OpenTerm α)}
    (hopens : phrase.Opens (Index.ofDocuments documents ids true) s₁ terms)
    (hsize : 2 ≤ phrase.size) {counter : PairCounter} {count : CountRequest → Int}
    (hcounter : counter.Answers fun request => .ok (count request)) (pairing : Pairing)
    (context : Context α) (s : Session (Binding α) α) :
    ∃ s', (prepareMarkovField ⟨context, pairing, some (phrase, counter)⟩).exec s =
        ((estimate context
          (.ok (pairTotals count pairing context.window documents phrase))).1, s') ∧
      s'.scorer = (estimate context
        (.ok (pairTotals count pairing context.window documents phrase))).2 ∧
      s.Leaves s' [] := by
  have hrun := exec_prepareMarkovField hdocuments hopens hsize hcounter pairing context s
  rwa [mapM_pairTotal_of_forall_ok fun _ => rfl] at hrun

/-- Preparing the Markov random field over an index, for a phrase of two terms or more, estimates
the frequency by brute force: it is the mean of the matching windows over the scored pairs, and at
least one. If the mean is too large to be a number, the preparation fails and the frequency is one.
The scored pairs are those that a pass scores in a document with all terms. Whatever was opened
before stays as it was, and what the preparation opens it closes. -/
theorem exec_prepareMarkovField_eq_pairTotals [Scalar α] {documents : List (List String)}
    (hdocuments : documents.length < 2 ^ 63) {ids : List String} {x : Index}
    (hx : Index.ofDocuments documents ids true = x) {query : Query α} {splitSynonyms : Bool}
    {s₀ s₁ : Session σ α} {phrase : Phrase α}
    (hopen : (Phrase.ofQuery x.source query splitSynonyms).exec s₀ = (.ok phrase, s₁))
    (hsize : 2 ≤ phrase.size) {counter : PairCounter} {count : CountRequest → Int}
    (hcounter : counter.Answers fun request => .ok (count request)) (pairing : Pairing)
    (context : Context α) (s : Session (Binding α) α) :
    ∃ (s' : Session (Binding α) α) (closed : List Stream),
      (∀ stream ∈ closed, stream.closed = true) ∧
      s'.opened.toList = s.opened.toList ++ closed ∧
      (∀ mean, (Scalar.ratio? (pairTotals count pairing context.window documents phrase).sum
          (pairing.places phrase.size).length : Option α) = some mean →
        (prepareMarkovField ⟨context, pairing, some (phrase, counter)⟩).exec s = (.ok (), s') ∧
          s'.scorer = ⟨some context, Scalar.greatest mean 1.0⟩) ∧
      ((Scalar.ratio? (pairTotals count pairing context.window documents phrase).sum
          (pairing.places phrase.size).length : Option α) = none →
        (prepareMarkovField ⟨context, pairing, some (phrase, counter)⟩).exec s =
            (.error .ratioTooLarge, s') ∧
          s'.scorer = .bound context) ∧
      (pairing.places phrase.size).length =
        (match pairing with
          | .adjacent => phrase.size - 1
          | .every => phrase.size * (phrase.size - 1) / 2) ∧
      ∀ (d : Nat) (document : List String), documents[d]? = some document →
        (∀ i < phrase.size, document.any (phrase.covers i) = true) →
        (pairsIn pairing (x.openTerms query splitSynonyms) d).map
          (fun pair => (pair.1.place, pair.2.place)) = pairing.places phrase.size := by
  subst hx
  have hopens : phrase.Opens (Index.ofDocuments documents ids true) s₁
      ((Index.ofDocuments documents ids true).openTerms query splitSynonyms) := by
    obtain ⟨p, s', hrun, hopens, -⟩ := Phrase.exec_ofQuery (Index.ofDocuments documents ids true)
      query splitSynonyms s₀
    rw [hopen] at hrun
    cases hrun
    exact hopens
  obtain ⟨s', hrun, hscorer, -, closed, hclosed, hopened⟩ :=
    exec_prepareMarkovField_of_forall_ok hdocuments hopens hsize hcounter pairing context s
  have hlength : (pairTotals count pairing context.window documents phrase).length =
      (pairing.places phrase.size).length := List.length_map _
  rw [← hlength]
  refine ⟨s', closed, hclosed, by simpa using hopened, fun mean hmean => ?_, fun hnone => ?_,
    hlength.trans (pairing.length_places _), ?_⟩
  · rw [estimate_of_some hmean] at hrun hscorer
    exact ⟨hrun, hscorer⟩
  · rw [estimate_of_none hnone] at hrun hscorer
    exact ⟨hrun, hscorer⟩
  · intro d document hd hcovers
    rw [map_place_pairsIn pairing (hopens.isSome_lookUp hd hcovers), hopens.size_eq]

theorem pairTotals_twoWords {phrase : Phrase Float} {s : Session σ Float}
    (h : phrase.Opens (Index.ofDocuments [["a", "b"]] [] true) s twoWords) (n window : Int) :
    pairTotals (fun _ => n) .adjacent window [["a", "b"]] phrase = [n] := by
  have hpostings : ∀ t ∈ twoWords, t.list.postings.toList ≠ [] := by simp [twoWords]
  have hcovers : ∀ i < phrase.terms.length, ["a", "b"].any (phrase.covers i) = true := by
    intro i hi
    have hi' : i < twoWords.length := h.terms.length_eq ▸ hi
    have hshow := h.terms.get hi hi'
    simp only [List.get_eq_getElem] at hshow
    have hlist := Index.toList_postings_of_find? hshow.opening
    rw [Phrase.covers_of_getElem? (List.getElem?_eq_getElem hi)] at hlist
    by_contra hnone
    refine hpostings _ (List.getElem_mem hi') (hlist.trans ?_)
    simp only [Index.postingsWhere, Index.postingWhere?, List.zipIdx_singleton,
      List.filterMap_cons, hnone]
    rfl
  have hsize : phrase.terms.length = 2 := h.terms.length_eq
  have htotal : ∀ window, documentTotal (fun _ => n) .adjacent window (phrase.covers 0)
      (phrase.covers 1) ["a", "b"] = n := by
    intro window
    rw [documentTotal, hcovers 0 (by omega), hcovers 1 (by omega)]
    rfl
  rw [pairTotals, Phrase.size, hsize]
  simp [Pairing.places, htotal]

theorem exec_ofQuery_twoWords (s : Session σ Float) :
    ∃ (phrase : Phrase Float) (s₁ : Session σ Float),
      (Phrase.ofQuery (Index.ofDocuments [["a", "b"]] [] true).source
        (Query.ofTokens none ["a", "b"]).filtered true).exec s = (.ok phrase, s₁) ∧
      phrase.Opens (Index.ofDocuments [["a", "b"]] [] true) s₁ twoWords := by
  obtain ⟨phrase, s₁, hrun, hopens, -⟩ := Phrase.exec_ofQuery
    (Index.ofDocuments [["a", "b"]] [] true) (Query.ofTokens none ["a", "b"]).filtered true s
  rw [openTerms_twoWords] at hopens
  exact ⟨phrase, s₁, hrun, hopens⟩

theorem exec_prepareMarkovField_of_three :
    ∃ (phrase : Phrase Float) (s₁ s₂ : Session (Binding Float) Float),
      (Phrase.ofQuery (Index.ofDocuments [["a", "b"]] [] true).source
        (Query.ofTokens none ["a", "b"]).filtered true).exec (.start Float .unbound) =
          (.ok phrase, s₁) ∧
      (prepareMarkovField ⟨.bare 2, .adjacent, some (phrase, ⟨fun _ _ => .ok 3⟩)⟩).exec s₁ =
        (.ok (), s₂) ∧
      s₂.scorer = ⟨some (.bare 2), 3.0⟩ := by
  obtain ⟨phrase, s₁, hrun, hopens⟩ := exec_ofQuery_twoWords
    (.start Float (Binding.unbound : Binding Float))
  have hsize : phrase.size = 2 := hopens.size_eq
  have hratio : (Scalar.ratio? 3 1 : Option Float) = some 3.0 := by decide +kernel
  have hgreatest : Scalar.greatest (3.0 : Float) 1.0 = 3.0 := by decide +kernel
  have hcounter : (PairCounter.mk fun _ _ => .ok 3).Answers fun _ => .ok 3 := fun _ _ => rfl
  obtain ⟨s₂, -, -, -, hok, -⟩ := exec_prepareMarkovField_eq_pairTotals (by decide) rfl hrun
    (by omega) hcounter .adjacent (.bare 2) s₁
  rw [pairTotals_twoWords hopens, hsize] at hok
  obtain ⟨hprepare, hscorer⟩ := hok 3.0 hratio
  rw [hgreatest] at hscorer
  exact ⟨phrase, s₁, s₂, hrun, hprepare, hscorer⟩

def hugeTotal : Int := -(10 ^ 400)

/-- The mean is too large to be a number, although one is larger than it. -/
theorem exec_prepareMarkovField_of_hugeTotal :
    ∃ (phrase : Phrase Float) (s₁ s₂ : Session (Binding Float) Float),
      (Phrase.ofQuery (Index.ofDocuments [["a", "b"]] [] true).source
        (Query.ofTokens none ["a", "b"]).filtered true).exec (.start Float .unbound) =
          (.ok phrase, s₁) ∧
      pairTotals (fun _ => hugeTotal) .adjacent 2 [["a", "b"]] phrase = [hugeTotal] ∧
      (prepareMarkovField ⟨.bare 2, .adjacent, some (phrase, ⟨fun _ _ => .ok hugeTotal⟩)⟩).exec
        s₁ = (.error .ratioTooLarge, s₂) := by
  obtain ⟨phrase, s₁, hrun, hopens⟩ := exec_ofQuery_twoWords
    (.start Float (Binding.unbound : Binding Float))
  have hsize : 2 ≤ phrase.size := hopens.size_eq.ge
  have htotals := pairTotals_twoWords hopens hugeTotal 2
  have hratio : (Scalar.ratio? [hugeTotal].sum [hugeTotal].length : Option Float) = none := by
    decide +kernel
  have hcounter : (PairCounter.mk fun _ _ => .ok hugeTotal).Answers fun _ => .ok hugeTotal :=
    fun _ _ => rfl
  obtain ⟨s₂, hprepare, -, -⟩ := exec_prepareMarkovField_of_forall_ok (by decide) hopens hsize
    hcounter .adjacent (.bare 2) s₁
  have hwindow : (Context.bare 2 : Context Float).window = 2 := rfl
  rw [hwindow, htotals, estimate_of_none hratio] at hprepare
  exact ⟨phrase, s₁, s₂, hrun, htotals, hprepare⟩

end Scoring
end ProximityRanking
