import ProximityRanking.Proofs.Symmetry
import ProximityRanking.Scoring.Binomial
import ProximityRanking.Scoring
/-!
The score of a document on its own. A snapshot is what a stream shows of the document that it stands
on. With exact arithmetic and weights that come to nothing, the pairs of the snapshots of a document
add up to what a run added to its score.
-/
set_option autoImplicit false

namespace ProximityRanking

-- Sums start from the zero of core, whatever else is imported.
attribute [local instance (high)] Zero.ofOfNat0

variable {σ α : Type}

theorem Scalar.rational_zero : (0.0 : ℚ) = 0 := by
  norm_num

theorem Scalar.rational_one : (1.0 : ℚ) = 1 := by
  norm_num

theorem WeightRule.combine_eq_one {id : Int} {a b : ℚ}
    (h : ofId? id = none ∨ a = 1 ∧ b = 1) : combine id a b = 1 := by
  unfold combine
  cases hrule : ofId? id with
  | none => exact Scalar.rational_one
  | some rule =>
    rw [hrule] at h
    obtain ⟨rfl, rfl⟩ : a = 1 ∧ b = 1 := h.resolve_left nofun
    cases rule with
    | average => exact show (0.5 * 1 + 0.5 * 1 : ℚ) = 1 by norm_num
    | product => exact mul_one 1
    | least => rfl
    | greatest => rfl

theorem Statistics.exists_averageWindows?_rational (statistics : Statistics) (window : Int) :
    ∃ average : ℚ, statistics.averageWindows? window = some average := by
  unfold averageWindows?
  split
  · exact ⟨_, rfl⟩
  · exact ⟨_, rfl⟩

/-- A posting is what some stream over a list shows of a document. -/
def PostingList.Snapshot (list : PostingList) (docid : Int) (p : Posting) : Prop :=
  ∃ s : Stream, s.list = list ∧ s.docid = docid ∧ s.posting = .ok p

namespace PostingList.Snapshot

variable {list : PostingList} {docid : Int} {p : Posting}

theorem lookUp (h : list.Snapshot docid p) (hlist : list.Ascends)
    (hpositional : list.positional = true) : list.lookUp docid = some p := by
  obtain ⟨s, rfl, rfl, hposting⟩ := h
  cases hcurrent : s.current? with
  | none =>
    simp [Stream.posting, Stream.positions, Stream.require, hpositional, hcurrent, Except.map, bind,
      Except.bind] at hposting
  | some q =>
    obtain rfl : q = p := by
      rw [Stream.posting_of_current? hpositional hcurrent] at hposting
      exact Except.ok.inj hposting
    rw [Stream.docid_of_current? hcurrent]
    cases hsteps : s.steps with
    | zero => simp [Stream.current?, hsteps] at hcurrent
    | succ k =>
      refine lookUp_eq_some (k := k) hlist ?_
      simpa [Stream.current?, hsteps] using hcurrent

theorem of_lookUp (h : list.lookUp docid = some p) (hpositional : list.positional = true) :
    list.Snapshot docid p := by
  obtain ⟨k, hk⟩ := List.mem_iff_getElem?.1 (List.mem_of_find?_eq_some h)
  have hk' : list.postings[k]? = some p := by simpa using hk
  obtain ⟨hlt, -⟩ := Array.getElem?_eq_some_iff.1 hk'
  have hcurrent := (Stream.iterate_step_current? list hlt.le).trans hk'
  have hdocid : p.docid = docid := by simpa using List.find?_some h
  refine ⟨_, (Stream.iterate_step_list _ (k + 1)).trans (Stream.ofList_list list), ?_,
    Stream.posting_of_current? ?_ hcurrent⟩
  · rw [Stream.docid_of_current? hcurrent, hdocid]
  · rwa [Stream.iterate_step_list, Stream.ofList_list]

end PostingList.Snapshot

/-- A scoring function that can be prepared in any session and, once it is, has one score for each
number of windows and each length, which depends on the window alone. -/
structure ScoringFunction.Computes (f : ScoringFunction σ α) (value : Int → Int → Int → α)
    (Ready : Int → σ → Prop) : Prop where
  prepare : ∀ preparation (s : Session σ α), ∃ s', (f.prepare preparation).exec s = (.ok (), s') ∧
    Ready preparation.context.window s'.scorer
  score : ∀ window matching length scorer, Ready window scorer → ∃ scorer',
    f.score matching length scorer = (.ok (value window matching length), scorer') ∧
      Ready window scorer'

def Binding.HasWindow (window : Int) (b : Binding α) : Prop :=
  ∃ context, b.context = some context ∧ context.window = window

theorem ScoringFunction.computes_ofScore [Scalar α] {name : String}
    {score : Binding α → Int → Int → Except Failure α} {value : Int → Int → Int → α}
    (h : ∀ binding context matching length, binding.context = some context →
      score binding matching length = .ok (value context.window matching length)) :
    (ScoringFunction.ofScore name score).Computes value Binding.HasWindow where
  prepare preparation s := ⟨_, rfl, preparation.context, rfl, rfl⟩
  score window matching length binding hready := by
    obtain ⟨context, hcontext, rfl⟩ := hready
    exact ⟨binding, congrArg (·, binding) (h binding context matching length hcontext), context,
      hcontext, rfl⟩

namespace Scoring

theorem computes_normalisedCount :
    (normalisedCount (α := ℚ)).Computes
      (fun _ matching length => if length ≤ 0 then 0.0 else matching / length.toNat)
      Binding.HasWindow := by
  refine ScoringFunction.computes_ofScore fun binding context matching length _ => ?_
  unfold proportion
  split <;> rfl

@[reducible] def rationalLogs (log log2 lnGamma : ℚ → ℚ) : LogScalar ℚ :=
  { Scalar.rational with log := log, log2 := log2, lnGamma := lnGamma }

theorem computes_binomialRandomness (log log2 lnGamma : ℚ → ℚ) :
    (@binomialRandomness ℚ (rationalLogs log log2 lnGamma)).Computes
      (fun window matching length => if matching = 0 then 0.0 else
        @informativeness ℚ (rationalLogs log log2 lnGamma) matching (windowCount window length))
      Binding.HasWindow := by
  refine ScoringFunction.computes_ofScore fun binding context matching length hcontext => ?_
  by_cases hnone : matching = 0
  · subst hnone
    simp only [Binding.require, hcontext]
    rfl
  · simp only [Binding.require, hcontext, binomialScore, hnone, if_false]
    rfl

end Scoring

def pairValue (value : Int → Int → Int → α) (count : CountRequest → Int) (window : Int)
    (pair : Posting × Posting) : α :=
  value window (count (requestFor .adjacent window pair)) pair.1.length

namespace Rescorer

variable [Scalar α] {r : Rescorer σ α} {value : Int → Int → Int → α} {Ready : Int → σ → Prop}
  {count : CountRequest → Int} {window : Int} {s : Session σ α}

def CountsBy (r : Rescorer σ α) (count : CountRequest → Int) (window : Int)
    (pair : Posting × Posting) : Prop :=
  ∀ answered, r.counter.count answered (requestFor .adjacent window pair) =
    .ok (count (requestFor .adjacent window pair))

theorem exec_scorePair_eq_value (hr : r.function.Computes value Ready) {a b : Posting}
    (hcount : r.CountsBy count window (a, b)) (i j : Nat) (hs : Ready window s.scorer) :
    ∃ s', (r.scorePair .adjacent window i (.ofPosting a) j (.ofPosting b)).exec s =
        (.ok (pairValue value count window (a, b)), s') ∧ Ready window s'.scorer := by
  obtain ⟨scorer, hscore, hready⟩ :=
    hr.score window (count (requestFor .adjacent window (a, b))) a.length s.scorer hs
  have hcounts := hcount s.answered
  unfold requestFor at hcounts hscore
  unfold scorePair Sighting.ofPosting
  simp only [SessionM.exec_bind, SessionM.exec_ofExcept, SessionM.exec_count, hcounts]
  simp only [SessionM.exec, SessionM.onScorer, hscore]
  split <;> exact ⟨_, rfl, hready⟩

theorem exec_sumPairs_eq_foldl (hr : r.function.Computes value Ready) {settings : Settings α}
    {pairs : List (Occurrence α × Occurrence α)}
    (hcounts : ∀ pair ∈ pairs, r.CountsBy count settings.window
      (pair.1.posting, pair.2.posting)) (total : α) (hs : Ready settings.window s.scorer) :
    ∃ s', (r.sumPairs settings .adjacent pairs total).exec s =
        (.ok (pairs.foldl (fun total pair =>
          total + pairValue value count settings.window (pair.1.posting, pair.2.posting) *
            WeightRule.combine settings.rule pair.1.weight pair.2.weight *
            settings.orderedWeight) total), s') ∧
      Ready settings.window s'.scorer := by
  refine SessionM.exec_foldlM_eq_foldl (fun pair hpair total s hs => ?_) hs total
  obtain ⟨s', hscore, hs'⟩ := exec_scorePair_eq_value hr (hcounts pair hpair) pair.1.place
    pair.2.place hs
  exact ⟨s', by rw [SessionM.exec_bind_of_ok hscore]; rfl, hs'⟩

theorem exec_sumNeighbours_eq_foldl (hr : r.function.Computes value Ready)
    {pairs : List ((Posting × Nat) × (Posting × Nat))}
    (hcounts : ∀ pair ∈ pairs, r.CountsBy count window (pair.1.1, pair.2.1)) (total : α)
    (hs : Ready window s.scorer) :
    ∃ s', (r.sumNeighbours window pairs total).exec s =
        (.ok (pairs.foldl (fun total pair =>
          total + pairValue value count window (pair.1.1, pair.2.1)) total), s') ∧
      Ready window s'.scorer := by
  induction pairs generalizing total s with
  | nil => exact ⟨s, rfl, hs⟩
  | cons pair rest ih =>
    obtain ⟨⟨a, i⟩, b, j⟩ := pair
    obtain ⟨hfirst, hrest⟩ := List.forall_mem_cons.1 hcounts
    obtain ⟨s₁, hscore, hs₁⟩ := exec_scorePair_eq_value hr hfirst i j hs
    obtain ⟨s₂, hsum, hs₂⟩ := ih hrest (total + pairValue value count window (a, b)) hs₁
    exact ⟨s₂, by rw [sumNeighbours, SessionM.exec_bind_of_ok hscore, hsum]; rfl, hs₂⟩

theorem exec_scoreDocument (hr : r.function.Computes value Ready) (settings : Settings α)
    {postings : List Posting}
    (hcounts : ∀ pair ∈ adjacentPairs postings, r.CountsBy count settings.window pair)
    (s : Session σ α) :
    ∃ s', (r.scoreDocument (.ok settings) postings).exec s =
      (.ok (settings.orderedWeight * (adjacentPairs postings).foldl (fun total pair =>
        total + pairValue value count settings.window pair) 0.0), s') := by
  have hpairs : adjacentPairs postings =
      (adjacentPairs postings.zipIdx).map (Prod.map Prod.fst Prod.fst) := by
    rw [← adjacentPairs_map, List.zipIdx_map_fst]
  rw [hpairs, List.forall_mem_map] at hcounts
  obtain ⟨s₁, hprepare, hs₁⟩ := hr.prepare ⟨.bare settings.window, .adjacent, none⟩ s
  obtain ⟨s₂, hsum, -⟩ := exec_sumNeighbours_eq_foldl hr hcounts 0.0 hs₁
  refine ⟨s₂, ?_⟩
  rw [hpairs, List.foldl_map]
  have hreading : (SessionM.ofExcept ((Except.ok settings : Except Settings.Fault
      (Settings α)).mapError .settings)).exec s = (.ok settings, s) := rfl
  rw [scoreDocument, SessionM.exec_bind_of_ok hreading, SessionM.exec_bind_of_ok hprepare,
    SessionM.exec_bind_of_ok hsum]
  rfl

end Rescorer

theorem exists_occurrences {terms : List (OpenTerm α)} {docid : Int} {postings : List Posting}
    (h : List.Forall₂ (fun t p => t.list.lookUp docid = some p) terms postings) :
    ∃ all : List (Occurrence α), occurrences terms docid = all.map some ∧
      all.map Occurrence.posting = postings ∧
      all.map Occurrence.weight = terms.map OpenTerm.weight := by
  unfold occurrences
  generalize 0 = first
  induction h generalizing first with
  | nil => exact ⟨[], rfl, rfl, rfl⟩
  | @cons t p terms postings hfound _ ih =>
    obtain ⟨all, hall, hpostings, hweights⟩ := ih (first + 1)
    refine ⟨⟨first, t.weight, p⟩ :: all, ?_, ?_, ?_⟩
    · rw [List.zipIdx_cons, List.map_cons, List.map_cons, hall, occurrenceOf, hfound]
      rfl
    · rw [List.map_cons, hpostings]
    · rw [List.map_cons, List.map_cons, hweights]

theorem pairsIn_of_occurrences {terms : List (OpenTerm α)} {docid : Int} {all : List (Occurrence α)}
    (h : occurrences terms docid = all.map some) :
    pairsIn .adjacent terms docid = adjacentPairs all := by
  unfold pairsIn
  rw [h, Pairing.pairs_map, List.filterMap_map]
  exact List.filterMap_some

namespace Rescorer

variable {r : Rescorer σ ℚ} {value : Int → Int → Int → ℚ} {Ready : Int → σ → Prop}
  {count : CountRequest → Int} {settings : Settings ℚ}

theorem foldl_weighed_eq {pairs : List (Occurrence ℚ × Occurrence ℚ)}
    (hweights : ∀ pair ∈ pairs,
      WeightRule.combine settings.rule pair.1.weight pair.2.weight = 1)
    (value : Posting × Posting → ℚ) (total : ℚ) :
    pairs.foldl (fun total pair => total + value (pair.1.posting, pair.2.posting) *
        WeightRule.combine settings.rule pair.1.weight pair.2.weight * settings.orderedWeight)
        (settings.orderedWeight * total) =
      settings.orderedWeight * (pairs.map (Prod.map Occurrence.posting Occurrence.posting)).foldl
        (fun total pair => total + value pair) total := by
  induction pairs generalizing total with
  | nil => rfl
  | cons pair rest ih =>
    obtain ⟨hpair, hrest⟩ := List.forall_mem_cons.1 hweights
    rw [List.foldl_cons, List.map_cons, List.foldl_cons, ← ih hrest, hpair, mul_one]
    congr 1
    simp only [Prod.map]
    ring

def sumUp (value : Int → Int → Int → ℚ) (count : CountRequest → Int) (settings : Settings ℚ)
    (terms : List (OpenTerm ℚ)) (allZero : Bool) (row : Row ℚ) : Row ℚ :=
  if keepsScore settings terms allZero row then
    { row with score := row.score * settings.baseWeight }
  else
    { row with score := row.score * settings.baseWeight +
        (pairsIn .adjacent terms row.docid).foldl (fun total pair => total +
          pairValue value count settings.window (pair.1.posting, pair.2.posting) *
            WeightRule.combine settings.rule pair.1.weight pair.2.weight *
            settings.orderedWeight) 0.0 }

theorem docid_sumUp (settings : Settings ℚ) (terms : List (OpenTerm ℚ)) (allZero : Bool)
    (row : Row ℚ) : (sumUp value count settings terms allZero row).docid = row.docid := by
  unfold sumUp
  split <;> rfl

theorem exec_scoreByLookUp_eq_sumUp (hr : r.function.Computes value Ready)
    {terms : List (OpenTerm ℚ)} {row : Row ℚ}
    (hcounts : ∀ pair ∈ pairsIn .adjacent terms row.docid,
      r.CountsBy count settings.window (pair.1.posting, pair.2.posting)) (allZero : Bool)
    {s : Session σ ℚ} (hs : Ready settings.window s.scorer) :
    ∃ s', (r.scoreByLookUp settings .adjacent terms allZero row).exec s =
      (.ok (sumUp value count settings terms allZero row), s') ∧
        Ready settings.window s'.scorer := by
  unfold scoreByLookUp sumUp
  split
  · exact ⟨s, rfl, hs⟩
  · obtain ⟨s', hsum, hs'⟩ := exec_sumPairs_eq_foldl hr hcounts 0.0 hs
    exact ⟨s', by rw [SessionM.exec_bind_of_ok hsum]; rfl, hs'⟩

theorem score_sumUp {terms : List (OpenTerm ℚ)} (hsize : 2 ≤ terms.length)
    (hweights : ∀ pair ∈ adjacentPairs (terms.map OpenTerm.weight),
      WeightRule.combine settings.rule pair.1 pair.2 = 1)
    {allZero : Bool} {row : Row ℚ}
    (hscored : allZero = true ∨ 0 < row.score * settings.baseWeight) {postings : List Posting}
    (hpostings : List.Forall₂ (fun t p => t.list.lookUp row.docid = some p) terms postings) :
    (sumUp value count settings terms allZero row).score = row.score * settings.baseWeight +
      settings.orderedWeight * (adjacentPairs postings).foldl (fun total pair =>
        total + pairValue value count settings.window pair) 0.0 := by
  obtain ⟨all, hall, rfl, hterms⟩ := exists_occurrences hpostings
  have hcount : (occurrences terms row.docid).countP Option.isSome = terms.length := by
    rw [hall, List.countP_map, ← List.length_map OpenTerm.weight, ← hterms, List.length_map]
    exact List.countP_eq_length.2 fun _ _ => rfl
  have hkeeps : keepsScore settings terms allZero row = false := by
    have hmany : ¬ terms.length < 2 := by omega
    unfold keepsScore
    rw [hcount, Bool.or_eq_false_iff]
    refine ⟨?_, decide_eq_false hmany⟩
    rcases hscored with rfl | hpositive
    · rfl
    · have hnot : ¬ row.score * settings.baseWeight ≤ 0.0 :=
        not_le_of_gt (Scalar.rational_zero.trans_lt hpositive)
      rw [decide_eq_false hnot, Bool.and_false]
  rw [← hterms, adjacentPairs_map, List.forall_mem_map] at hweights
  have hsums := foldl_weighed_eq hweights (pairValue value count settings.window) 0.0
  have hzero : settings.orderedWeight * (0.0 : ℚ) = 0.0 := by
    rw [Scalar.rational_zero, mul_zero]
  rw [hzero, ← adjacentPairs_map] at hsums
  simp only [sumUp, hkeeps, pairsIn_of_occurrences hall, Bool.false_eq_true, if_false, hsums]

theorem run_eq_sumUp (hr : r.function.Computes value Ready) (hmode : settings.mode = .sequential)
    {documents : List (List String)} (hdocuments : documents.length < 2 ^ 63) {ids : List String}
    {query : Query ℚ} {terms : List (OpenTerm ℚ)}
    (hterms : (Index.ofDocuments documents ids true).openTerms query.filtered
      settings.splitSynonyms = terms) (hsize : 2 ≤ terms.length) {results : ResultSet ℚ}
    (hcounts : ∀ row ∈ results.rows, ∀ pair ∈ pairsIn .adjacent terms row.docid,
      r.CountsBy count settings.window (pair.1.posting, pair.2.posting)) (s : Session σ ℚ) :
    (∀ t ∈ terms, t.list.Ascends ∧ t.list.positional = true) ∧
    ∃ results', (r.run (.ok settings) (Index.ofDocuments documents ids true).source query results
        s).1 = (⟨.applied, results.sortByDocid.rows.countP
          (!keepsScore settings terms (Pass.allZero results) ·), none⟩, results') ∧
      results'.rows = results.sortByDocid.rows.map
        (sumUp value count settings terms (Pass.allZero results)) := by
  have hpairing : settings.mode.pairing? = some .adjacent := by
    rw [hmode]
    rfl
  obtain ⟨average, haverage⟩ : ∃ average : ℚ, (Index.ofDocuments documents ids
      true).statistics.averageWindows? settings.window = some average :=
    Statistics.exists_averageWindows?_rational _ _
  have hprepare : ∀ (phrase : Phrase ℚ) s,
      phrase.Opens (Index.ofDocuments documents ids true) s terms →
      ∃ s', (r.function.prepare ((r.passOver settings .adjacent phrase).preparation phrase
        average)).exec s = (.ok (), s') ∧ Ready settings.window s'.scorer :=
    fun phrase s _ => hr.prepare _ s
  obtain ⟨phrase, s₀, s₁, hphrase, hlists, hready, hs₁, hends⟩ :=
    exists_pass hpairing hdocuments hterms hsize haverage hprepare s
  obtain ⟨s₂, hrows, -⟩ := SessionM.exec_mapM_eq_map (fun row hrow s hs =>
    exec_scoreByLookUp_eq_sumUp hr (hcounts row (results.sortByDocid_perm.mem_iff.1 hrow))
      (Pass.allZero results) hs) hs₁
  obtain ⟨results', hrun, hresults, -⟩ := run_of_mapM_ok hphrase hlists rfl hready hrows
  exact ⟨hlists, results', hends hrun, hresults⟩

/-- The score of a document on its own is what a run over an index with positions adds to its
weighted score: with exact arithmetic, for neighbours whose weights come to one in every pair of
the at least two terms, and for documents that have all of them and are not passed over. -/
theorem scoreDocument_eq_run (hr : r.function.Computes value Ready)
    (hmode : settings.mode = .sequential) {documents : List (List String)}
    (hdocuments : documents.length < 2 ^ 63) {ids : List String} {x : Index}
    (hx : Index.ofDocuments documents ids true = x) {query : Query ℚ} {terms : List (OpenTerm ℚ)}
    (hterms : x.openTerms query.filtered settings.splitSynonyms = terms) (hsize : 2 ≤ terms.length)
    (hweights : ∀ pair ∈ adjacentPairs (terms.map OpenTerm.weight),
      WeightRule.combine settings.rule pair.1 pair.2 = 1)
    {results : ResultSet ℚ}
    (hcounts : ∀ row ∈ results.rows, ∀ pair ∈ pairsIn .adjacent terms row.docid,
      r.CountsBy count settings.window (pair.1.posting, pair.2.posting))
    {row : Row ℚ} (hrow : row ∈ results.rows)
    (hscored : Pass.allZero results = true ∨ 0 < row.score * settings.baseWeight)
    {snapshots : List Posting}
    (hsnapshots : List.Forall₂ (fun t p => t.list.Snapshot row.docid p) terms snapshots)
    (s s' : Session σ ℚ) :
    ∃ final, (r.run (.ok settings) x.source query results s).1.2.scoreOf row.docid = .ok final ∧
      ((r.scoreDocument (.ok settings) snapshots).exec s').1 =
        .ok (final - settings.baseWeight * row.score) := by
  subst hx
  obtain ⟨hlists, results', hrun, hresults⟩ :=
    run_eq_sumUp hr hmode hdocuments hterms hsize hcounts s
  have hpostings : List.Forall₂ (fun t p => t.list.lookUp row.docid = some p) terms snapshots :=
    ((List.forall₂_and_left _ _).2 ⟨hlists, hsnapshots⟩).imp
      fun t p ⟨⟨hascends, hpositional⟩, hp⟩ => hp.lookUp hascends hpositional
  have hpairs : ∀ pair ∈ adjacentPairs snapshots, r.CountsBy count settings.window pair := by
    obtain ⟨all, hall, rfl, -⟩ := exists_occurrences hpostings
    rw [adjacentPairs_map, List.forall_mem_map, ← pairsIn_of_occurrences hall]
    exact hcounts row hrow
  obtain ⟨s₁, hscore⟩ := exec_scoreDocument hr settings hpairs s'
  have hmem : sumUp value count settings terms (Pass.allZero results) row ∈ results'.rows := by
    rw [hresults]
    exact List.mem_map_of_mem (results.sortByDocid_perm.mem_iff.2 hrow)
  have hfinal := results'.scoreOf_of_mem hmem
  rw [docid_sumUp, score_sumUp hsize hweights hscored hpostings] at hfinal
  refine ⟨_, (congrArg (fun ended => ended.2.scoreOf row.docid) hrun).trans hfinal, ?_⟩
  rw [hscore]
  refine congrArg Except.ok ?_
  ring

end Rescorer

def Settings.doubling : Settings ℚ :=
  { Settings.standard with mode := .sequential, baseWeight := 2 }

theorem openTerms_one_rational :
    (Index.ofDocuments [["a"]] [] true).openTerms
      (Query.ofTokens none ["a"] : Query ℚ).filtered true =
        [⟨"a", 1.0, ⟨some "a", #[⟨0, 1, [0]⟩], true⟩⟩] := by
  have ha : Index.postingsIn "a" [["a"]] = [⟨0, 1, [0]⟩] := by decide
  have hrequests : (Query.ofTokens none ["a"] : Query ℚ).filtered.requests true =
      [⟨"a", 1.0, .term "a"⟩] := by
    simp [Query.ofTokens, Query.ofTerms, Query.filtered, Query.requests, Query.terms, Query.add,
      Roster.values, upsert, Query.empty, QueryTerm.requests, QueryTerm.isPseudo, TermKind.isWindow,
      QueryTerm.hasMarker, QueryTerm.startsMarker]
  simp [Index.openTerms, hrequests, Index.openNext, Index.find?, Index.postings?_ofDocuments, ha]

namespace Rescorer

attribute [local instance] Table.Memory.large

theorem scoreDocument_eq_run_of_two_words :
    ∃ final, ((Rescorer.mk Scoring.normalisedCount .windows).run (.ok Settings.doubling)
        (Index.ofDocuments [["a", "b"]] [] true).source (Query.ofTokens none ["a", "b"])
        ⟨[⟨0, 1, 1⟩], by simp⟩ (.start ℚ Binding.unbound)).1.2.scoreOf 0 = .ok final ∧
      (((Rescorer.mk Scoring.normalisedCount .windows).scoreDocument (.ok Settings.doubling)
        [⟨0, 2, [0]⟩, ⟨0, 2, [1]⟩]).exec (.start ℚ Binding.unbound)).1 = .ok (final - 2 * 1) := by
  have hweights : ∀ pair ∈ adjacentPairs ([1.0, 1.0] : List ℚ),
      WeightRule.combine Settings.doubling.rule pair.1 pair.2 = 1 := by
    intro pair hpair
    obtain rfl := List.mem_singleton.1 hpair
    exact WeightRule.combine_eq_one (.inr ⟨Scalar.rational_one, Scalar.rational_one⟩)
  have hcounts : ∀ row ∈ [(⟨0, 1, 1⟩ : Row ℚ)], ∀ pair ∈ pairsIn .adjacent
      [(⟨"a", 1.0, ⟨some "a", #[⟨0, 2, [0]⟩], true⟩⟩ : OpenTerm ℚ),
        ⟨"b", 1.0, ⟨some "b", #[⟨0, 2, [1]⟩], true⟩⟩] row.docid,
      (Rescorer.mk (Scoring.normalisedCount (α := ℚ)) .windows).CountsBy (fun _ => 1)
        Settings.doubling.window (pair.1.posting, pair.2.posting) := by
    intro row hrow pair hpair answered
    obtain rfl := List.mem_singleton.1 hrow
    obtain rfl := List.mem_singleton.1 hpair
    exact show Window.count .adjacent [0] [1] 2 2 = .ok 1 by decide
  have hsnapshots : List.Forall₂ (fun t p => t.list.Snapshot 0 p)
      [(⟨"a", 1.0, ⟨some "a", #[⟨0, 2, [0]⟩], true⟩⟩ : OpenTerm ℚ),
        ⟨"b", 1.0, ⟨some "b", #[⟨0, 2, [1]⟩], true⟩⟩] [⟨0, 2, [0]⟩, ⟨0, 2, [1]⟩] :=
    .cons (.of_lookUp rfl rfl) (.cons (.of_lookUp rfl rfl) .nil)
  have hscored : (0 : ℚ) < 1 * Settings.doubling.baseWeight := by
    unfold Settings.doubling
    norm_num
  exact @scoreDocument_eq_run (Binding ℚ) ⟨Scoring.normalisedCount, .windows⟩ _ _ (fun _ => 1)
    Settings.doubling Scoring.computes_normalisedCount rfl [["a", "b"]] (by decide) [] _ rfl
    (Query.ofTokens none ["a", "b"]) _ (openTerms_two true) (by decide) hweights
    ⟨[⟨0, 1, 1⟩], by simp⟩ hcounts ⟨0, 1, 1⟩ (by simp) (.inr hscored)
    [⟨0, 2, [0]⟩, ⟨0, 2, [1]⟩] hsnapshots (.start ℚ .unbound) (.start ℚ .unbound)

/-- With a single word there is no run, and nothing is weighted. -/
theorem scoreDocument_ne_run_of_one_word :
    (Index.ofDocuments [["a"]] [] true).openTerms (Query.ofTokens none ["a"] : Query ℚ).filtered
        Settings.doubling.splitSynonyms = [⟨"a", 1.0, ⟨some "a", #[⟨0, 1, [0]⟩], true⟩⟩] ∧
      PostingList.Snapshot ⟨some "a", #[⟨0, 1, [0]⟩], true⟩ 0 ⟨0, 1, [0]⟩ ∧
      ((Rescorer.mk Scoring.normalisedCount .windows).run (.ok Settings.doubling)
        (Index.ofDocuments [["a"]] [] true).source (Query.ofTokens none ["a"])
        ⟨[⟨0, 1, 1⟩], by simp⟩ (.start ℚ Binding.unbound)).1.2.scoreOf 0 = .ok 1 ∧
      (((Rescorer.mk Scoring.normalisedCount .windows).scoreDocument (.ok Settings.doubling)
        [⟨0, 1, [0]⟩]).exec (.start ℚ Binding.unbound)).1 = .ok 0 ∧
      (0 : ℚ) ≠ 1 - Settings.doubling.baseWeight * 1 := by
  refine ⟨openTerms_one_rational, .of_lookUp rfl rfl, ?_, ?_, ?_⟩
  · obtain ⟨phrase, s₁, hopened, hopens, -⟩ := (Rescorer.mk (Scoring.normalisedCount (α := ℚ))
      .windows).exists_opened Settings.doubling (Index.ofDocuments [["a"]] [] true)
        (Query.ofTokens none ["a"]) (.start ℚ .unbound)
    rw [show Settings.doubling.splitSynonyms = true from rfl, openTerms_one_rational] at hopens
    have hsize : phrase.size < 2 := by
      rw [hopens.size_eq]
      decide
    rw [run_eq, hopened]
    simp only [runPhrase_of_lt _ _ hsize]
    rfl
  · have hscore : Settings.doubling.orderedWeight * (0.0 : ℚ) = 0 := by
      rw [Scalar.rational_zero, mul_zero]
    exact congrArg Except.ok hscore
  · unfold Settings.doubling
    norm_num

end Rescorer
end ProximityRanking
