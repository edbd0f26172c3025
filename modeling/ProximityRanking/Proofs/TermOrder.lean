import ProximityRanking.Proofs.QueryOrder
import ProximityRanking.Proofs.Shares
/-!
Full dependence does not depend on the order of the query terms. Two phrases with the same terms in
different orders have the same pairs, some of them the other way round; with exact arithmetic their
shares add up to the same in every document, and so do the windows that the preparation counts in
the collection.
-/
set_option autoImplicit false

namespace ProximityRanking

-- Sums start from the zero of core, whatever else is imported.
attribute [local instance (high)] Zero.ofOfNat0

variable {σ α : Type}

def weighedIn (terms : List (OpenTerm α)) (docid : Int) : List (α × Posting) :=
  terms.filterMap fun o => (o.list.lookUp docid).map fun posting => (o.weight, posting)

theorem map_weighed_occurrences (terms : List (OpenTerm α)) (docid : Int) :
    (occurrences terms docid).reduceOption.map Occurrence.weighed = weighedIn terms docid := by
  have hterms : weighedIn terms docid = terms.zipIdx.filterMap fun e =>
      (e.1.list.lookUp docid).map fun posting => (e.1.weight, posting) := by
    conv_lhs => rw [← List.zipIdx_map_fst 0 terms, weighedIn, List.filterMap_map]
    rfl
  rw [hterms, List.reduceOption, occurrences, List.filterMap_map, List.map_filterMap]
  refine List.filterMap_congr fun e _ => ?_
  simp [occurrenceOf, Occurrence.weighed, Function.comp_def]

theorem countP_occurrences (terms : List (OpenTerm α)) (docid : Int) :
    (occurrences terms docid).countP Option.isSome = (weighedIn terms docid).length := by
  rw [← map_weighed_occurrences, List.length_map, List.reduceOption_length_eq,
    List.countP_eq_length_filter]

theorem mapM_pairsIn {ε γ : Type} (f : (α × Posting) × (α × Posting) → Except ε γ)
    (terms : List (OpenTerm α)) (docid : Int) :
    ((pairsIn .every terms docid).mapM fun pair => f (pair.1.weighed, pair.2.weighed)) =
      (everyPair (weighedIn terms docid)).mapM f := by
  rw [← map_weighed_occurrences, everyPair_map, List.mapM_map, pairsIn, Pairing.pairs,
    filterMap_bothOf_everyPair]
  rfl

def SameLengths (terms : List (OpenTerm α)) : Prop :=
  ∀ docid, ∀ x ∈ weighedIn terms docid, ∀ y ∈ weighedIn terms docid, x.2.length = y.2.length

theorem Index.length_of_lookUp {documents : List (List String)} {ids : List String}
    {positional : Bool} {opening : Opening} {list : PostingList}
    (h : (ofDocuments documents ids positional).find? opening = some list) {docid : Int}
    {posting : Posting} (hposting : list.lookUp docid = some posting) :
    ∃ d document, docid = (d : Nat) ∧ documents[d]? = some document ∧
      posting.length = document.length := by
  have hmem := List.mem_of_find?_eq_some hposting
  have hdocid : posting.docid = docid := by simpa using List.find?_some hposting
  rw [toList_postings_of_find? h] at hmem
  obtain ⟨⟨document, d⟩, hd, hposting⟩ := List.mem_filterMap.1 hmem
  refine ⟨d, document, ?_, List.mk_mem_zipIdx_iff_getElem?.1 hd, ?_⟩
  · rw [← hdocid, docid_of_postingWhere? hposting]
  · rw [postingWhere?] at hposting
    split at hposting
    · cases hposting
      rfl
    · cases hposting

namespace Phrase.Opens

variable {documents : List (List String)} {ids : List String} {positional : Bool}
  {phrase : Phrase α} {s : Session σ α} {terms : List (OpenTerm α)}
  (h : phrase.Opens (Index.ofDocuments documents ids positional) s terms)

include h

theorem sameLengths : SameLengths terms := by
  have hlength : ∀ docid, ∀ x ∈ weighedIn terms docid, ∃ d document, docid = (d : Nat) ∧
      documents[d]? = some document ∧ x.2.length = document.length := by
    intro docid x hx
    obtain ⟨o, ho, hx⟩ := List.mem_filterMap.1 hx
    obtain ⟨posting, hposting, rfl⟩ := Option.map_eq_some_iff.1 hx
    obtain ⟨t, -, hshow⟩ := h.exists_of_mem ho
    exact Index.length_of_lookUp hshow.opening hposting
  intro docid x hx y hy
  obtain ⟨d, document, hd, hdocument, hxlength⟩ := hlength docid x hx
  obtain ⟨d', document', hd', hdocument', hylength⟩ := hlength docid y hy
  obtain rfl : d = d' := by omega
  rw [hdocument] at hdocument'
  cases hdocument'
  rw [hxlength, hylength]

end Phrase.Opens

theorem pairShare_comm [Table.Memory] (settings : Settings ℚ) (score : Int → Int → ℚ)
    {x y : ℚ × Posting} (h : x.2.length = y.2.length) :
    pairShare settings .every Window.answer score (x, y) =
      pairShare settings .every Window.answer score (y, x) := by
  simp only [pairShare, Window.answer_requestFor_comm _ h, h,
    WeightRule.combine_comm settings.rule x.1]

theorem Rescorer.Scores.agree_sumPairs [Table.Memory] {r : Rescorer σ ℚ}
    {score : σ → Int → Int → ℚ} (h : r.Scores Window.answer score)
    {terms terms' : List (OpenTerm ℚ)} (hterms : terms.Perm terms') (hlengths : SameLengths terms)
    (settings : Settings ℚ) (docid : Int) (total : ℚ) :
    SessionM.Agree (fun _ _ => True) (fun s s' => s.scorer = s'.scorer)
      (r.sumPairs settings .every (pairsIn .every terms docid) total)
      (r.sumPairs settings .every (pairsIn .every terms' docid) total)
      (SessionM.Same fun s s' => s.scorer = s'.scorer) := by
  intro s s' hs
  obtain ⟨s₁, hrun, hscorer⟩ :=
    h.exec_sumPairs settings .every (pairsIn .every terms docid) total s
  obtain ⟨s₁', hrun', hscorer'⟩ :=
    h.exec_sumPairs settings .every (pairsIn .every terms' docid) total s'
  have hscorers : s₁.scorer = s₁'.scorer := by rw [hscorer, hscorer', hs]
  have hends : EndsAlike (fun _ _ => True)
      (fun shares shares' t t' => shares.Perm shares' ∧ t.scorer = t'.scorer)
      ((everyPair (weighedIn terms docid)).mapM
        (pairShare settings .every Window.answer (score s.scorer)), s₁)
      ((everyPair (weighedIn terms' docid)).mapM
        (pairShare settings .every Window.answer (score s.scorer)), s₁') :=
    .of_rel (perm_mapM_everyPair (hterms.filterMap _)
      fun x hx y hy => pairShare_comm settings _ (hlengths docid x hx y hy))
      fun _ _ hperm => ⟨hperm, hscorers⟩
  have hcomm : RightCommutative fun x y : ℚ => x + y := ⟨add_right_comm⟩
  rw [mapM_pairsIn] at hrun hrun'
  rw [← hs] at hrun'
  rw [hrun, hrun']
  exact hends.map fun _ _ _ _ hsame => ⟨hsame.1.foldl_eq total, hsame.2⟩

/-- Two phrases over an index with positions have the same terms, in different orders, and nothing
in their sessions tells their scoring functions apart. -/
structure Reordered (documents : List (List String)) (ids : List String)
    (terms terms' : List (OpenTerm ℚ)) (phrase phrase' : Phrase ℚ) (s s' : Session σ ℚ) : Prop where
  first : phrase.Opens (Index.ofDocuments documents ids true) s terms
  second : phrase'.Opens (Index.ofDocuments documents ids true) s' terms'
  perm : terms.Perm terms'
  scorer : s.scorer = s'.scorer

namespace Reordered

variable {documents : List (List String)} {ids : List String} {terms terms' : List (OpenTerm ℚ)}
  {phrase phrase' : Phrase ℚ} {s s' : Session σ ℚ}
  (h : Reordered documents ids terms terms' phrase phrase' s s')

include h

theorem size_eq : phrase.size = phrase'.size := by
  rw [h.first.size_eq, h.second.size_eq, h.perm.length_eq]

theorem source_eq : phrase.source = phrase'.source :=
  h.first.source.trans h.second.source.symm

theorem announced : Reordered documents ids terms terms' phrase phrase' (phrase.announced s)
    (phrase'.announced s') where
  first := h.first.keptIn (phrase.keptIn_announced s)
  second := h.second.keptIn (phrase'.keptIn_announced s')
  perm := h.perm
  scorer := (phrase.keptIn_announced s).scorer.trans
    (h.scorer.trans (phrase'.keptIn_announced s').scorer.symm)

theorem stepsAgree [Table.Memory] (hdocuments : documents.length < 2 ^ 63)
    {r : Rescorer σ ℚ} {score : σ → Int → Int → ℚ} (hr : r.Scores Window.answer score)
    (settings : Settings ℚ) (results : ResultSet ℚ) :
    List.Forall₂
      (Pass.StepsAgree (fun _ _ => True) (fun s s' => s.scorer = s'.scorer)
        (r.passOver settings .every phrase) (r.passOver settings .every phrase'))
      ((r.passOver settings .every phrase).plan (Pass.allZero results)
        ((r.passOver settings .every phrase).weighted results).rows
        (terms.map fun t => (Stream.ofList t.list).step))
      ((r.passOver settings .every phrase').plan (Pass.allZero results)
        ((r.passOver settings .every phrase').weighted results).rows
        (terms'.map fun t => (Stream.ofList t.list).step)) := by
  have hlists := h.first.lists hdocuments
  have hlists' := h.second.lists hdocuments
  have hpositional : ∀ t ∈ terms, t.list.positional = true := fun t ht => (hlists t ht).2
  have hpositional' : ∀ t ∈ terms', t.list.positional = true := fun t ht => (hlists' t ht).2
  rw [Rescorer.plan_weighted fun t ht => (hlists t ht).1,
    Rescorer.plan_weighted fun t ht => (hlists' t ht).1, List.forall₂_map_left_iff,
    List.forall₂_map_right_iff]
  refine List.forall₂_same.2 fun row _ => ?_
  have hweigh : (r.passOver settings .every phrase').weigh row =
      (r.passOver settings .every phrase).weigh row := rfl
  simp only [Pass.stepAt, hweigh]
  generalize (r.passOver settings .every phrase).weigh row = row
  have hcount := Pass.countP_slotsAt (p := r.passOver settings .every phrase) h.first.weights_eq
    row.docid
  have hcount' := Pass.countP_slotsAt (p := r.passOver settings .every phrase') h.second.weights_eq
    row.docid
  have hlength : (weighedIn terms row.docid).length = (weighedIn terms' row.docid).length :=
    (h.perm.filterMap _).length_eq
  unfold Pass.found
  rw [hcount, hcount', countP_occurrences, countP_occurrences, hlength]
  split
  · exact .kept row
  · refine .scored row ?_
    rw [Pass.boost_slotsAt h.first.weights_eq hpositional,
      Pass.boost_slotsAt h.second.weights_eq hpositional']
    exact hr.agree_sumPairs h.perm h.first.sameLengths settings row.docid 0.0

end Reordered

/-- A scoring function of this library with other scores, which never fail: its preparation
remembers the context, or estimates a frequency as well. -/
inductive Scoring.NeverFails [Scalar α] (score : Binding α → Int → Int → α) :
    ScoringFunction (Binding α) α → Prop
  | ofScore (name : String) :
    NeverFails score (.ofScore name fun b matching length => .ok (score b matching length))
  | markovField : NeverFails score ⟨markovFieldName, prepareMarkovField,
      fun matching length b => (.ok (score b matching length), b)⟩

theorem Scoring.NeverFails.scores [Table.Memory] [Scalar α] {score : Binding α → Int → Int → α}
    {f : ScoringFunction (Binding α) α} (h : NeverFails score f) :
    (Rescorer.mk f .windows).Scores Window.answer score := by
  cases h with
  | ofScore name => exact ⟨PairCounter.answers_windows, fun _ _ _ => rfl⟩
  | markovField => exact ⟨PairCounter.answers_windows, fun _ _ _ => rfl⟩

def Scoring.jointTotal [Table.Memory] (window : Int) (postings : List Posting × List Posting) :
    Except Failure Int :=
  ((joinPostings postings.1 postings.2).mapM fun both =>
    Window.answer (requestFor .every window both)).map List.sum

namespace Phrase.Opens

variable {documents : List (List String)} {ids : List String} {positional : Bool}
  {phrase : Phrase α} {s : Session σ α} {terms : List (OpenTerm α)}
  (h : phrase.Opens (Index.ofDocuments documents ids positional) s terms)

include h

theorem mapM_pairTotal [Table.Memory] (window : Int) :
    ((Pairing.every.pairs phrase.terms).mapM fun pair =>
      Scoring.pairTotal Window.answer .every window documents pair.1.opening.covers
        pair.2.opening.covers) =
      (everyPair (terms.map fun o => o.list.postings.toList)).mapM (Scoring.jointTotal window) := by
  have hpostings : phrase.terms.map (fun t => Index.postingsWhere t.opening.covers documents) =
      terms.map fun o => o.list.postings.toList :=
    map_eq_map_of_forall₂ h.terms fun t o ht =>
      (Index.toList_postings_of_find? ht.opening).symm
  rw [← hpostings, everyPair_map, List.mapM_map]
  rfl

theorem jointTotal_comm [Table.Memory] (window : Int) :
    ∀ ps ∈ terms.map (fun o => o.list.postings.toList),
      ∀ qs ∈ terms.map (fun o => o.list.postings.toList),
        Scoring.jointTotal window (ps, qs) = Scoring.jointTotal window (qs, ps) := by
  have hwhere : ∀ ps ∈ terms.map (fun o => o.list.postings.toList),
      ∃ p, ps = Index.postingsWhere p documents := by
    intro ps hps
    obtain ⟨o, ho, rfl⟩ := List.mem_map.1 hps
    obtain ⟨t, -, hshow⟩ := h.exists_of_mem ho
    exact ⟨_, Index.toList_postings_of_find? hshow.opening⟩
  intro ps hps qs hqs
  obtain ⟨p, rfl⟩ := hwhere ps hps
  obtain ⟨q, rfl⟩ := hwhere qs hqs
  exact Scoring.pairTotal_every_comm window documents p q

end Phrase.Opens

theorem Scoring.estimate_perm [Scalar α] {totals totals' : Except Failure (List Int)}
    (h : Option.Rel List.Perm totals.toOption totals'.toOption) (context : Context α) :
    Option.Rel Eq (estimate context totals).1.toOption (estimate context totals').1.toOption ∧
      (estimate context totals).2 = (estimate context totals').2 := by
  cases totals with
  | error e =>
    cases totals' with
    | error e' => exact ⟨.none, rfl⟩
    | ok totals' => cases h
  | ok totals =>
    cases totals' with
    | error e' => cases h
    | ok totals' =>
      cases h with
      | some h =>
        have hsum : totals.sum = totals'.sum := h.sum_eq
        rw [estimate, estimate, hsum, h.length_eq]
        split
        · exact ⟨.none, rfl⟩
        · exact ⟨.some rfl, rfl⟩

namespace Reordered

variable [Table.Memory] {documents : List (List String)} {ids : List String}
  {terms terms' : List (OpenTerm ℚ)} {phrase phrase' : Phrase ℚ} {s s' : Session (Binding ℚ) ℚ}
  (h : Reordered documents ids terms terms' phrase phrase' s s')
  (hdocuments : documents.length < 2 ^ 63) (hsize : 2 ≤ phrase.size)
  {score : Binding ℚ → Int → Int → ℚ} {f : ScoringFunction (Binding ℚ) ℚ}
  (hf : Scoring.NeverFails score f)

include h hdocuments hsize hf

theorem prepare {p p' : Pass (Binding ℚ) ℚ} {settings : Settings ℚ} {weights weights' : List ℚ}
    (hp : p = ⟨⟨f, .windows⟩, settings, .every, weights⟩)
    (hp' : p' = ⟨⟨f, .windows⟩, settings, .every, weights'⟩) (average : ℚ) :
    EndsAlike (fun _ _ => True) (fun _ _ s₁ s₁' => s₁.scorer = s₁'.scorer)
        ((p.rescorer.function.prepare (p.preparation phrase average)).exec s)
        ((p'.rescorer.function.prepare (p'.preparation phrase' average)).exec s') ∧
      ((p.rescorer.function.prepare (p.preparation phrase average)).exec s).2.scorer =
        ((p'.rescorer.function.prepare (p'.preparation phrase' average)).exec s').2.scorer := by
  subst hp hp'
  unfold Pass.preparation
  rw [← h.source_eq]
  generalize Context.mk settings.window average (phrase.source.statistics.tokens : Int)
    (phrase.source.statistics.documents : Int) = context
  cases hf with
  | ofScore name =>
    have hscorer : ({ s.scorer with context := some context } : Binding ℚ) =
        { s'.scorer with context := some context } := by rw [h.scorer]
    exact ⟨.ok hscorer, hscorer⟩
  | markovField =>
    obtain ⟨s₁, hrun, hscorer, -⟩ := Scoring.exec_prepareMarkovField hdocuments h.first hsize
      PairCounter.answers_windows .every context s
    obtain ⟨s₁', hrun', hscorer', -⟩ := Scoring.exec_prepareMarkovField hdocuments h.second
      (h.size_eq ▸ hsize) PairCounter.answers_windows .every context s'
    have htotals := perm_mapM_everyPair (h.perm.map fun o => o.list.postings.toList)
      (h.first.jointTotal_comm context.window)
    obtain ⟨houtcome, hstate⟩ := Scoring.estimate_perm htotals context
    rw [← h.first.mapM_pairTotal, ← h.second.mapM_pairTotal] at houtcome hstate
    have hscorers := hscorer.trans (hstate.trans hscorer'.symm)
    simp only [hrun, hrun']
    exact ⟨.of_rel houtcome fun _ _ _ => hscorers, hscorers⟩

theorem ready {p p' : Pass (Binding ℚ) ℚ} {settings : Settings ℚ} {weights weights' : List ℚ}
    (hp : p = ⟨⟨f, .windows⟩, settings, .every, weights⟩)
    (hp' : p' = ⟨⟨f, .windows⟩, settings, .every, weights'⟩) :
    EndsAlike (fun _ _ => True)
        (fun streams streams' s₁ s₁' =>
          (streams = terms.map fun t => (Stream.ofList t.list).step) ∧
          (streams' = terms'.map fun t => (Stream.ofList t.list).step) ∧
          s₁.scorer = s₁'.scorer)
        ((p.ready phrase).exec s) ((p'.ready phrase').exec s') ∧
      ((p.ready phrase).exec s).2.scorer = ((p'.ready phrase').exec s').2.scorer := by
  have haverages : (phrase'.source.statistics.averageWindows? p'.settings.window : Option ℚ) =
      phrase.source.statistics.averageWindows? p.settings.window := by
    rw [← h.source_eq, hp, hp']
  cases haverage : (phrase.source.statistics.averageWindows? p.settings.window : Option ℚ) with
  | none =>
    rw [Pass.ready_of_none haverage, Pass.ready_of_none (haverages.trans haverage)]
    exact ⟨.error trivial, h.scorer⟩
  | some average =>
    obtain ⟨hends, hscorer⟩ := h.prepare hdocuments hsize hf hp hp' average
    rw [Pass.exec_ready haverage, Pass.exec_ready (haverages.trans haverage), h.first.streams_eq,
      h.second.streams_eq, List.map_map, List.map_map]
    exact ⟨hends.map fun _ _ _ _ hsame => ⟨rfl, rfl, hsame⟩, hscorer⟩

theorem pass (settings : Settings ℚ) (results : ResultSet ℚ) :
    EndedAlike (fun _ _ => True)
      (((Rescorer.mk f .windows).passOver settings .every phrase).run phrase results s).1
      (((Rescorer.mk f .windows).passOver settings .every phrase').run phrase' results s').1 := by
  have hsettings : ((Rescorer.mk f .windows).passOver settings .every phrase).settings =
      ((Rescorer.mk f .windows).passOver settings .every phrase').settings := rfl
  refine Pass.run_agree (P := fun s₁ s₁' => s₁ = s ∧ s₁' = s')
    (R := fun s₁ s₁' => s₁.scorer = s₁'.scorer) hsettings (fun s₁ s₁' hs₁ => ?_) ⟨rfl, rfl⟩
  obtain ⟨rfl, rfl⟩ := hs₁
  refine (h.ready hdocuments hsize hf rfl rfl).1.imp fun streams streams' s₂ s₂' hs₂ => ?_
  obtain ⟨rfl, rfl, hscorer⟩ := hs₂
  exact ⟨h.stepsAgree hdocuments hf.scores settings results, hscorer⟩

end Reordered

theorem Query.exists_reordered {q q' : Query ℚ} (hq : q.Named) (hq' : q'.Named)
    (hterms : q.terms.Perm q'.terms) (documents : List (List String)) (ids : List String)
    (splitSynonyms : Bool) {s s' : Session σ ℚ} (hs : s.scorer = s'.scorer) :
    ∃ terms terms' phrase phrase' s₁ s₁',
      (Phrase.ofQuery (Index.ofDocuments documents ids true).source q.filtered
        splitSynonyms).exec s = (.ok phrase, s₁) ∧
      (Phrase.ofQuery (Index.ofDocuments documents ids true).source q'.filtered
        splitSynonyms).exec s' = (.ok phrase', s₁') ∧
      Reordered documents ids terms terms' phrase phrase' s₁ s₁' := by
  have hfiltered : q.filtered.terms.Perm q'.filtered.terms := by
    rw [terms_filtered hq, terms_filtered hq']
    exact hterms.filter _
  obtain ⟨phrase, s₁, hopen, hopens, hkept⟩ := Phrase.exec_ofQuery
    (Index.ofDocuments documents ids true) q.filtered splitSynonyms s
  obtain ⟨phrase', s₁', hopen', hopens', hkept'⟩ := Phrase.exec_ofQuery
    (Index.ofDocuments documents ids true) q'.filtered splitSynonyms s'
  exact ⟨_, _, phrase, phrase', s₁, s₁', hopen, hopen', hopens, hopens',
    Index.perm_openTerms _ (.ofTerms _ _) hfiltered splitSynonyms,
    hkept.scorer.trans (hs.trans hkept'.scorer.symm)⟩

/-- Under full dependence, with exact arithmetic and scores that never fail, a run over an index
with positions ends alike for queries that hold the same terms in different orders: with the same
status and as many documents altered, with the same results, and with the scoring function in the
same state. Only the failure that cuts a run short may be another one. -/
theorem Rescorer.run_of_perm [Table.Memory] {score : Binding ℚ → Int → Int → ℚ}
    {f : ScoringFunction (Binding ℚ) ℚ} (hf : Scoring.NeverFails score f) {settings : Settings ℚ}
    (hmode : settings.mode = .full) {documents : List (List String)}
    (hdocuments : documents.length < 2 ^ 63) {ids : List String} {x : Index}
    (hx : Index.ofDocuments documents ids true = x) {id id' : Option String}
    {terms terms' : List (QueryTerm ℚ)}
    (hterms : (Query.ofTerms id terms).terms.Perm (Query.ofTerms id' terms').terms)
    (results : ResultSet ℚ) (s : Session (Binding ℚ) ℚ) :
    EndedAlike (fun _ _ => True)
        ((Rescorer.mk f .windows).run (.ok settings) x.source (.ofTerms id terms) results s).1
        ((Rescorer.mk f .windows).run (.ok settings) x.source (.ofTerms id' terms') results s).1 ∧
      ((Rescorer.mk f .windows).run (.ok settings) x.source (.ofTerms id terms)
          results s).2.scorer =
        ((Rescorer.mk f .windows).run (.ok settings) x.source (.ofTerms id' terms')
          results s).2.scorer := by
  subst hx
  have hpairing : settings.mode.pairing? = some .every := by
    rw [hmode]
    rfl
  obtain ⟨opened, opened', phrase, phrase', s₁, s₁', hopen, hopen', hphrases⟩ :=
    Query.exists_reordered (.ofTerms id terms) (.ofTerms id' terms') hterms documents ids
      settings.splitSynonyms (s := (Rescorer.mk f .windows).begun settings s) rfl
  constructor
  · refine Rescorer.run_agree (V := Reordered documents ids opened opened') ?_
      (fun _ _ _ _ h => h.size_eq) fun phrase₁ phrase₁' s₂ s₂' pairing h hsize hsome => ?_
    · rw [hopen, hopen']
      exact .ok hphrases
    · obtain rfl : pairing = .every := Option.some.inj (hsome.symm.trans hpairing)
      exact h.announced.pass hdocuments hsize hf settings results
  · by_cases hfew : phrase.size < 2
    · rw [scorer_run_of_lt hopen hfew, scorer_run_of_lt hopen' (hphrases.size_eq ▸ hfew)]
      exact hphrases.scorer
    · have hsize : 2 ≤ phrase.size := by omega
      rw [hf.scores.scorer_run hopen hsize hpairing,
        hf.scores.scorer_run hopen' (hphrases.size_eq ▸ hsize) hpairing]
      exact (hphrases.announced.ready hdocuments hsize hf rfl rfl).2

theorem Scoring.neverFails_normalisedCount :
    NeverFails (fun _ matching length => if length ≤ 0 then (0.0 : ℚ) else matching / length.toNat)
      normalisedCount := by
  have hproportion : (proportion : Int → Int → Except Failure ℚ) = fun matching length =>
      .ok (if length ≤ 0 then (0.0 : ℚ) else matching / length.toNat) := by
    funext matching length
    unfold proportion
    split <;> rfl
  unfold normalisedCount
  rw [hproportion]
  exact .ofScore "NormalisedCount"

def QueryTerm.word : QueryTerm ℚ :=
  ⟨"a", 1, .base, []⟩

def QueryTerm.group : QueryTerm ℚ :=
  ⟨"#syn(b a)", 2, .synonym, ["b", "a"]⟩

def Settings.pairwise : Settings ℚ :=
  { Settings.standard with mode := .full, rule := 2 }

attribute [local instance] Table.Memory.large

theorem Rescorer.run_of_perm_word_group :
    (Query.ofTerms none [.word, .group] : Query ℚ).terms.Perm
        (Query.ofTerms none [.group, .word]).terms ∧
      EndedAlike (fun _ _ => True)
        ((Rescorer.mk Scoring.normalisedCount .windows).run (.ok Settings.pairwise)
          (Index.ofDocuments [["a", "b"]] [] true).source (.ofTerms none [.word, .group])
          ⟨[⟨0, 2, 1⟩], by simp⟩ (.start ℚ .unbound)).1
        ((Rescorer.mk Scoring.normalisedCount .windows).run (.ok Settings.pairwise)
          (Index.ofDocuments [["a", "b"]] [] true).source (.ofTerms none [.group, .word])
          ⟨[⟨0, 2, 1⟩], by simp⟩ (.start ℚ .unbound)).1 := by
  have hterms : (Query.ofTerms none [.word, .group] : Query ℚ).terms.Perm
      (Query.ofTerms none [.group, .word]).terms := by
    rw [Query.terms_ofTerms (by decide), Query.terms_ofTerms (by decide)]
    exact .swap _ _ _
  exact ⟨hterms, (Rescorer.run_of_perm Scoring.neverFails_normalisedCount rfl (by decide) rfl
    hterms ⟨[⟨0, 2, 1⟩], by simp⟩ (.start ℚ .unbound)).1⟩

end ProximityRanking
