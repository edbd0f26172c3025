import Mathlib.Algebra.BigOperators.Ring.List
import Mathlib.Algebra.Order.BigOperators.Group.List
import Mathlib.Tactic.Linarith
import ProximityRanking.Proofs.Overlaps
import ProximityRanking.Proofs.Snapshots
import ProximityRanking.Proofs.TermOrder
import ProximityRanking.Proofs.Traces
/-!
How far a run can raise a score. A document has at most as many windows as tokens, so the proportion
of those that match a pair is at most one. With exact arithmetic and weights that are not negative,
a score then lies between the weighted score and what the weights of its pairs add to that.
-/
set_option autoImplicit false

namespace ProximityRanking

variable {σ β : Type}

theorem Scalar.least_nonneg {a b : ℚ} (ha : 0 ≤ a) (hb : 0 ≤ b) : 0 ≤ Scalar.least a b := by
  unfold least
  split
  · exact hb
  · exact ha

theorem Scalar.greatest_nonneg {a b : ℚ} (ha : 0 ≤ a) (hb : 0 ≤ b) : 0 ≤ Scalar.greatest a b := by
  unfold greatest
  split
  · exact hb
  · exact ha

theorem WeightRule.combine_nonneg (id : Int) {a b : ℚ} (ha : 0 ≤ a) (hb : 0 ≤ b) :
    0 ≤ combine id a b := by
  unfold combine
  cases ofId? id with
  | none => exact zero_le_one.trans_eq Scalar.rational_one.symm
  | some rule =>
    cases rule with
    | average => exact show (0 : ℚ) ≤ 0.5 * a + 0.5 * b by positivity
    | product => exact mul_nonneg ha hb
    | least => exact Scalar.least_nonneg ha hb
    | greatest => exact Scalar.greatest_nonneg ha hb

theorem forall_upsert {P : β → Prop} {k : String} {f : Option β → β} {l : List (String × β)}
    (h : ∀ e ∈ l, P e.2) (hadded : P (f none)) (hchanged : ∀ v, P v → P (f (some v))) :
    ∀ e ∈ upsert k f l, P e.2 := by
  induction l with
  | nil => simpa [upsert] using hadded
  | cons e rest ih =>
    obtain ⟨k', v⟩ := e
    obtain ⟨hv, hrest⟩ := List.forall_mem_cons.1 h
    unfold upsert
    split
    · exact List.forall_mem_cons.2 ⟨hchanged v hv, hrest⟩
    · exact List.forall_mem_cons.2 ⟨hv, ih hrest⟩

namespace Query

def NonNegative (q : Query ℚ) : Prop :=
  ∀ t ∈ q.terms, 0 ≤ t.weight

theorem NonNegative.add {q : Query ℚ} (h : q.NonNegative) {t : QueryTerm ℚ} (ht : 0 ≤ t.weight) :
    (q.add t).NonNegative := by
  unfold NonNegative terms Roster.values at h ⊢
  rw [List.forall_mem_map] at h ⊢
  rw [Query.add, Roster.toList_alter]
  exact forall_upsert (P := fun t : QueryTerm ℚ => 0 ≤ t.weight) h ht
    fun first hfirst => add_nonneg hfirst ht

theorem nonNegative_ofTerms (id : Option String) {ts : List (QueryTerm ℚ)}
    (h : ∀ t ∈ ts, 0 ≤ t.weight) : (ofTerms id ts).NonNegative := by
  refine List.foldlRecOn ts Query.add (motive := NonNegative) nofun fun q hq t ht => ?_
  exact hq.add (h t ht)

theorem NonNegative.filtered {q : Query ℚ} (h : q.NonNegative) : q.filtered.NonNegative :=
  nonNegative_ofTerms q.id fun t ht => h t (List.mem_of_mem_filter ht)

theorem NonNegative.requests {q : Query ℚ} (h : q.NonNegative) {splitSynonyms : Bool}
    {r : OpeningRequest ℚ} (hr : r ∈ q.requests splitSynonyms) : 0 ≤ r.weight := by
  obtain ⟨t, ht, hr⟩ := List.mem_flatMap.1 hr
  have hweight : r.weight = t.weight := by
    unfold QueryTerm.requests at hr
    split at hr
    · split at hr
      · obtain ⟨word, -, rfl⟩ := List.mem_map.1 hr
        rfl
      · obtain rfl := List.mem_singleton.1 hr
        rfl
    · obtain rfl := List.mem_singleton.1 hr
      rfl
  rw [hweight]
  exact h t ht

theorem NonNegative.openTerms {q : Query ℚ} (h : q.NonNegative) (x : Index)
    (splitSynonyms : Bool) : ∀ t ∈ x.openTerms q splitSynonyms, 0 ≤ t.weight := by
  refine List.foldlRecOn (q.requests splitSynonyms) x.openNext
    (motive := fun terms => ∀ t ∈ terms, 0 ≤ t.weight) (List.forall_mem_nil _)
    fun terms hterms r hr => ?_
  have hr := h.requests hr
  unfold Index.openNext
  split
  · exact hterms
  · split
    · refine List.forall_mem_map.2 fun t ht => ?_
      split
      · exact add_nonneg (hterms t ht) hr
      · exact hterms t ht
    · exact List.forall_mem_append.2 ⟨hterms, List.forall_mem_singleton.2 hr⟩

end Query

theorem windowCount_le_length {window length : Int} (hwindow : 1 ≤ window) (hlength : 0 < length) :
    windowCount window length ≤ length := by
  unfold windowCount
  split <;> omega

theorem Scoring.proportion_mem_Icc {window matching length : Int} (hwindow : 1 ≤ window)
    (hmatching : matching ∈ Set.Icc 0 (windowCount window length)) {x : ℚ}
    (hx : proportion matching length = .ok x) : x ∈ Set.Icc 0 1 := by
  unfold proportion at hx
  split at hx
  · cases hx
    rw [Scalar.rational_zero]
    exact ⟨le_refl 0, zero_le_one⟩
  · have hlength : 0 < length := by omega
    obtain ⟨hnonneg, hmost⟩ := hmatching
    have hle : matching ≤ length := hmost.trans (windowCount_le_length hwindow hlength)
    obtain rfl : (matching : ℚ) / (length.toNat : ℕ) = x := Except.ok.inj hx
    have hcast : ((length.toNat : ℕ) : ℚ) = (length : ℚ) := by
      exact_mod_cast congrArg (Int.cast : Int → ℚ) (Int.toNat_of_nonneg hlength.le)
    have hpos : (0 : ℚ) < length := by exact_mod_cast hlength
    have hnonneg' : (0 : ℚ) ≤ matching := by exact_mod_cast hnonneg
    have hle' : (matching : ℚ) ≤ length := by exact_mod_cast hle
    rw [hcast]
    exact ⟨div_nonneg hnonneg' hpos.le, (div_le_one hpos).2 hle'⟩

namespace Rescorer

def proportional [Table.Memory] : Rescorer (Binding ℚ) ℚ where
  function := Scoring.normalisedCount
  counter := .windows

variable {settings : Settings ℚ} {pairing : Pairing} {terms : List (OpenTerm ℚ)} {allZero : Bool}

section Scores

variable [Table.Memory]

theorem scorePair_mem_Icc [Table.Bounded] {window : Int} (hwindow : 1 ≤ window) {i j : Nat}
    {a b : Sighting} {s s' : Session (Binding ℚ) ℚ} {x : ℚ}
    (h : (proportional.scorePair pairing window i a j b).exec s = (.ok x, s')) :
    x ∈ Set.Icc 0 1 := by
  obtain ⟨first, s₁, -, h⟩ := SessionM.exec_bind_eq_ok.1 h
  obtain ⟨second, s₂, -, h⟩ := SessionM.exec_bind_eq_ok.1 h
  obtain ⟨matching, s₃, hcount, h⟩ := SessionM.exec_bind_eq_ok.1 h
  obtain ⟨score, s₄, hscore, h⟩ := SessionM.exec_bind_eq_ok.1 h
  obtain ⟨hcounts, -⟩ := SessionM.exec_count_eq_ok_iff.1 hcount
  have hscore : Scoring.proportion matching a.length = .ok score := congrArg Prod.fst hscore
  obtain rfl : score = x := Except.ok.inj (congrArg Prod.fst h)
  exact Scoring.proportion_mem_Icc hwindow (Window.count_mem_Icc hcounts) hscore

/-- A score is a weighted score and the sum of some scored pairs, each of which scores the
proportion of the windows that match it. -/
structure SumsUp (settings : Settings ℚ) (pairing : Pairing) (scored : List (ScoredPair ℚ))
    (score score' : ℚ) : Prop where
  counts : ∀ p ∈ scored,
    Window.answer (pairRequest pairing settings.window p.pair) = .ok p.matching
  scores : ∀ p ∈ scored,
    Scoring.proportion p.matching p.first.posting.length = .ok p.score
  sum : score' = settings.baseWeight * score + (scored.map (·.share settings pairing)).sum

namespace SumsUp

variable {scored : List (ScoredPair ℚ)} {score score' : ℚ}

theorem weighted (score : ℚ) : SumsUp settings pairing [] score (score * settings.baseWeight) where
  counts := nofun
  scores := nofun
  sum := by simp [mul_comm]

theorem score_mem_Icc [Table.Bounded] (h : SumsUp settings pairing scored score score')
    {p : ScoredPair ℚ} (hp : p ∈ scored) : p.score ∈ Set.Icc 0 1 :=
  Scoring.proportion_mem_Icc settings.one_le_window (Window.count_mem_Icc (h.counts p hp))
    (h.scores p hp)

theorem mem_Icc [Table.Bounded] (h : SumsUp settings pairing scored score score')
    (hpair : 0 ≤ settings.pairWeight pairing)
    (hweights : ∀ p ∈ scored, 0 ≤ p.first.weight ∧ 0 ≤ p.second.weight) :
    score' ∈ Set.Icc (settings.baseWeight * score) (settings.baseWeight * score +
      settings.pairWeight pairing * (scored.map fun p =>
        WeightRule.combine settings.rule p.first.weight p.second.weight).sum) := by
  have hcombine : ∀ p ∈ scored,
      0 ≤ WeightRule.combine settings.rule p.first.weight p.second.weight :=
    fun p hp => WeightRule.combine_nonneg _ (hweights p hp).1 (hweights p hp).2
  have hshare : ∀ p ∈ scored, 0 ≤ p.share settings pairing := fun p hp =>
    mul_nonneg (mul_nonneg (h.score_mem_Icc hp).1 (hcombine p hp)) hpair
  have hmost : ∀ p ∈ scored, p.share settings pairing ≤ settings.pairWeight pairing *
      WeightRule.combine settings.rule p.first.weight p.second.weight := by
    intro p hp
    have hle : p.score * WeightRule.combine settings.rule p.first.weight p.second.weight ≤
        WeightRule.combine settings.rule p.first.weight p.second.weight :=
      mul_le_of_le_one_left (hcombine p hp) (h.score_mem_Icc hp).2
    rw [mul_comm (settings.pairWeight pairing)]
    exact mul_le_mul_of_nonneg_right hle hpair
  rw [h.sum]
  constructor
  · have hsum := List.sum_nonneg (l := scored.map (·.share settings pairing))
      (List.forall_mem_map.2 hshare)
    linarith
  · have hsum := List.sum_le_sum hmost
    rw [List.sum_map_mul_left] at hsum
    linarith

end SumsUp

theorem counts_of_evaluates {window : Int} {scorer scorer' : Binding ℚ}
    {answered answered' : Array CountRequest} {scored : List (ScoredPair ℚ)}
    (h : proportional.Evaluates pairing window scorer answered scored scorer' answered') :
    (∀ p ∈ scored, Window.answer (pairRequest pairing window p.pair) = .ok p.matching) ∧
      ∀ p ∈ scored, Scoring.proportion p.matching p.first.posting.length = .ok p.score := by
  induction h with
  | nil => exact ⟨nofun, nofun⟩
  | cons counts scores _ ih =>
    obtain ⟨hcounts, hscores⟩ := ih
    exact ⟨List.forall_mem_cons.2 ⟨counts, hcounts⟩,
      List.forall_mem_cons.2 ⟨congrArg Prod.fst scores, hscores⟩⟩

theorem exists_sumsUp_of_scoreByLookUp {row row' : Row ℚ} {s s' : Session (Binding ℚ) ℚ}
    (h : (proportional.scoreByLookUp settings pairing terms allZero row).exec s = (.ok row', s')) :
    row'.docid = row.docid ∧ ∃ scored : List (ScoredPair ℚ),
      scored.map ScoredPair.pair = plannedPairs settings pairing terms allZero [row] ∧
      SumsUp settings pairing scored row.score row'.score := by
  unfold scoreByLookUp at h
  cases hkeeps : keepsScore settings terms allZero row with
  | true =>
    rw [hkeeps] at h
    cases h
    exact ⟨rfl, [], by simp [plannedPairs, hkeeps], .weighted row.score⟩
  | false =>
    rw [hkeeps] at h
    obtain ⟨x, s₁, hsum, h⟩ := SessionM.exec_bind_eq_ok.1 h
    obtain ⟨scored, hpairs, rfl, hscored⟩ := scored_of_sumPairs_eq_ok hsum
    cases h
    obtain ⟨hcounts, hscores⟩ := counts_of_evaluates hscored.evaluates
    refine ⟨rfl, scored, by simp [plannedPairs, hkeeps, hpairs], hcounts, hscores, ?_⟩
    rw [List.sum_eq_foldl, ← Scalar.rational_zero, mul_comm]

omit [Table.Memory] in
theorem weights_nonneg_of_mem_pairsIn (hterms : ∀ t ∈ terms, 0 ≤ t.weight) {docid : Int}
    {pair : Occurrence ℚ × Occurrence ℚ} (h : pair ∈ pairsIn pairing terms docid) :
    0 ≤ pair.1.weight ∧ 0 ≤ pair.2.weight := by
  have hweight : ∀ o : Occurrence ℚ, some o ∈ occurrences terms docid → 0 ≤ o.weight := by
    intro o ho
    obtain ⟨e, he, heq⟩ := List.mem_map.1 ho
    obtain ⟨posting, -, rfl⟩ := Option.map_eq_some_iff.1 heq
    exact hterms e.1 (List.fst_mem_of_mem_zipIdx he)
  obtain ⟨hfirst, hsecond⟩ := mem_occurrences_of_mem_pairsIn h
  exact ⟨hweight pair.1 hfirst, hweight pair.2 hsecond⟩

theorem exists_scorePair {window : Int} {a b : Posting} {matching : Int}
    (h : Window.answer (requestFor pairing window (a, b)) = .ok matching) (i j : Nat)
    (s : Session (Binding ℚ) ℚ) :
    ∃ score s', (proportional.scorePair pairing window i (.ofPosting a) j (.ofPosting b)).exec s =
      (.ok score, s') := by
  obtain ⟨s', hscore, -⟩ := Scoring.neverFails_normalisedCount.scores.exec_scorePair_ofPosting
    pairing window i j a b s
  rw [h] at hscore
  exact ⟨_, s', hscore⟩

theorem exists_scoreByLookUp {row : Row ℚ}
    (h : ∀ pair ∈ pairsIn pairing terms row.docid, ∃ matching,
      Window.answer (pairRequest pairing settings.window pair) = .ok matching)
    (s : Session (Binding ℚ) ℚ) :
    ∃ row' s', (proportional.scoreByLookUp settings pairing terms allZero row).exec s =
      (.ok row', s') := by
  have hsum : ∃ x s', (proportional.sumPairs settings pairing (pairsIn pairing terms row.docid)
      0.0).exec s = (.ok x, s') ∧ True := by
    refine SessionM.exec_foldlM_of_forall (fun pair hpair total s _ => ?_) trivial 0.0
    obtain ⟨matching, hanswer⟩ := h pair hpair
    obtain ⟨score, s', hscore⟩ := exists_scorePair hanswer pair.1.place pair.2.place s
    exact ⟨_, s', by rw [SessionM.exec_bind_of_ok hscore]; rfl, trivial⟩
  unfold scoreByLookUp
  split
  · exact ⟨_, s, rfl⟩
  · obtain ⟨x, s', hsum, -⟩ := hsum
    exact ⟨_, s', by rw [SessionM.exec_bind_of_ok hsum]; rfl⟩

theorem exists_answer {documents : List (List String)} {ids : List String} {x : Index}
    (hx : Index.ofDocuments documents ids true = x) {query : Query ℚ}
    (hterms : x.openTerms query.filtered settings.splitSynonyms = terms)
    (hwindow : settings.window < 2 ^ 63)
    (hlengths : ∀ document ∈ documents,
      Table.Fits (windowCount settings.window document.length).toNat) {docid : Int}
    {pair : Occurrence ℚ × Occurrence ℚ} (hpair : pair ∈ pairsIn pairing terms docid) :
    ∃ matching, Window.answer (pairRequest pairing settings.window pair) = .ok matching := by
  obtain ⟨e, he, hfirst⟩ := List.mem_map.1 (mem_occurrences_of_mem_pairsIn hpair).1
  obtain ⟨posting, hposting, hoccurrence⟩ := Option.map_eq_some_iff.1 hfirst
  obtain ⟨phrase, s, -, hopens, -⟩ :=
    proportional.exists_opened settings x query (.start ℚ .unbound)
  rw [hterms] at hopens
  obtain ⟨t, -, ht⟩ := hopens.exists_of_mem (List.fst_mem_of_mem_zipIdx he)
  subst hx
  obtain ⟨d, document, -, hdocument, hlength⟩ := Index.length_of_lookUp ht.opening hposting
  have hroom := hlengths document (List.mem_of_getElem? hdocument)
  have hone := settings.one_le_window
  have hbits : fitsBits 64 settings.window = true := (fitsBits_iff 64 _).2 ⟨by omega, by omega⟩
  obtain ⟨matching, hmatching⟩ := Window.exists_count (hlength ▸ hroom) hbits pairing
    posting.positions pair.2.posting.positions
  refine ⟨matching, ?_⟩
  rw [← hmatching]
  unfold Window.answer pairRequest requestFor
  rw [← hoccurrence]

end Scores

section Rows

variable {α : Type} [Scalar α] {r : Rescorer σ α} {settings : Settings α}
  {terms : List (OpenTerm α)} {results : ResultSet α}

/-- What a run leaves of a row: the row with the scores of its pairs, or, where a failure came
first, with its weighted score only. -/
inductive Leaves (r : Rescorer σ α) (settings : Settings α) (pairing : Pairing)
    (terms : List (OpenTerm α)) (allZero : Bool) (failure : Option Failure) (row : Row α) :
    Row α → Prop where
  | scored {row' : Row α} {s s' : Session σ α}
    (scores : (r.scoreByLookUp settings pairing terms allZero row).exec s = (.ok row', s')) :
    Leaves r settings pairing terms allZero failure row row'
  | weighted (fails : failure ≠ none) :
    Leaves r settings pairing terms allZero failure row
      { row with score := row.score * settings.baseWeight }

/-- What a run leaves of some rows, and the row to which it owes its failure if it has one. -/
structure LeavesAll (r : Rescorer σ α) (settings : Settings α) (pairing : Pairing)
    (terms : List (OpenTerm α)) (results results' : ResultSet α) (failure : Option Failure) :
    Prop where
  rows : ∀ row ∈ results.rows, ∃ row' ∈ results'.rows,
    r.Leaves settings pairing terms (Pass.allZero results) failure row row'
  failure : ∀ e, failure = some e → ∃ row ∈ results.rows, ∃ s s',
    (r.scoreByLookUp settings pairing terms (Pass.allZero results) row).exec s = (.error e, s')

theorem leavesAll_pass {phrase : Phrase α}
    (hweights : phrase.terms.map PhraseTerm.weight = terms.map OpenTerm.weight)
    (hlists : ∀ t ∈ terms, t.list.Ascends ∧ t.list.positional = true) {s s₁ : Session σ α}
    (hready : ((r.passOver settings pairing phrase).ready phrase).exec s =
      (.ok (terms.map fun t => (Stream.ofList t.list).step), s₁)) :
    ∃ outcome results' s', (r.passOver settings pairing phrase).run phrase results s =
        ((outcome, results'), s') ∧
      r.LeavesAll settings pairing terms results results' outcome.failure := by
  have hascends : ∀ t ∈ terms, t.list.Ascends := fun t ht => (hlists t ht).1
  have hpositional : ∀ t ∈ terms, t.list.positional = true := fun t ht => (hlists t ht).2
  rcases hrows : (results.sortByDocid.rows.mapM (r.scoreByLookUp settings pairing terms
    (Pass.allZero results))).exec s₁ with ⟨ended, s₂⟩
  cases ended with
  | ok rows =>
    obtain ⟨results', hrun, rfl, -⟩ := run_of_mapM_ok hweights hlists rfl hready hrows
    refine ⟨_, results', s₂, hrun, fun row hrow => ?_, nofun⟩
    obtain ⟨row', hrow', s₃, s₄, hscores⟩ :=
      SessionM.exists_of_exec_mapM_ok hrows (results.sortByDocid_perm.mem_iff.2 hrow)
    exact ⟨row', hrow', .scored hscores⟩
  | error e =>
    obtain ⟨before, row₀, after, rows, s₃, hsorted, hbefore, hfails⟩ :=
      SessionM.exists_of_exec_mapM_error hrows
    have hrow₀ : row₀ ∈ results.rows := results.sortByDocid_perm.mem_iff.1 (by simp [hsorted])
    have hbefore' := hbefore
    have hfails' := hfails
    rw [← scoreRow_passOver hweights hpositional] at hbefore' hfails'
    obtain ⟨results', hrun, hresults, -⟩ :=
      run_of_scoreRow_error hweights hascends hready hsorted hbefore' hfails'
    refine ⟨_, results', s₂, hrun, fun row hrow => ?_, fun e' he => ?_⟩
    · have hmem := results.sortByDocid_perm.mem_iff.2 hrow
      rw [hsorted] at hmem
      rw [hresults]
      -- Rows before the one that fails are scored, that one and the later ones weighted only.
      rcases List.mem_append.1 hmem with hearlier | hleft
      · obtain ⟨row', hrow', s₄, s₅, hscores⟩ := SessionM.exists_of_exec_mapM_ok hbefore hearlier
        exact ⟨row', List.mem_append_left _ hrow', .scored hscores⟩
      · exact ⟨_, List.mem_append_right _ (List.mem_map_of_mem hleft), .weighted nofun⟩
    · obtain rfl := Option.some.inj he
      exact ⟨row₀, hrow₀, s₃, s₂, hfails⟩

theorem run_of_few_terms {x : Index} {query : Query α}
    (hterms : x.openTerms query.filtered settings.splitSynonyms = terms) (hsize : terms.length < 2)
    (results : ResultSet α) (s : Session σ α) :
    (r.run (.ok settings) x.source query results s).1 = (.skipped, results) := by
  obtain ⟨phrase, s₁, hopened, hopens, -⟩ := r.exists_opened settings x query s
  rw [hterms] at hopens
  have hsize : phrase.size < 2 := hopens.size_eq ▸ hsize
  rw [run_eq, hopened]
  simp only [runPhrase_of_lt r settings hsize]

end Rows

section Runs

variable [Table.Memory]

theorem Leaves.exists_sumsUp {failure : Option Failure} {row row' : Row ℚ}
    (h : proportional.Leaves settings pairing terms allZero failure row row') :
    row'.docid = row.docid ∧ ∃ scored : List (ScoredPair ℚ),
      SumsUp settings pairing scored row.score row'.score ∧
      scored.map ScoredPair.pair <+: plannedPairs settings pairing terms allZero [row] ∧
      (failure = none →
        scored.map ScoredPair.pair = plannedPairs settings pairing terms allZero [row]) := by
  cases h with
  | scored scores =>
    obtain ⟨hdocid, scored, hpairs, hsums⟩ := exists_sumsUp_of_scoreByLookUp scores
    exact ⟨hdocid, scored, hsums, hpairs ▸ List.prefix_refl _, fun _ => hpairs⟩
  | weighted fails =>
    exact ⟨rfl, [], .weighted row.score, List.nil_prefix, fun hnone => absurd hnone fails⟩

theorem LeavesAll.failure_eq_none {results results' : ResultSet ℚ} {failure : Option Failure}
    (h : proportional.LeavesAll settings pairing terms results results' failure)
    (hanswers : ∀ row ∈ results.rows, ∀ pair ∈ pairsIn pairing terms row.docid, ∃ matching,
      Window.answer (pairRequest pairing settings.window pair) = .ok matching) :
    failure = none := by
  by_contra hfailed
  obtain ⟨e, he⟩ := Option.ne_none_iff_exists'.1 hfailed
  obtain ⟨row, hrow, s, s', hfails⟩ := h.failure e he
  have hscores : ∃ row' s', (proportional.scoreByLookUp settings pairing terms
      (Pass.allZero results) row).exec s = (.ok row', s') :=
    exists_scoreByLookUp (hanswers row hrow) s
  obtain ⟨row', s₁, hscores⟩ := hscores
  rw [hscores] at hfails
  cases hfails

theorem leavesAll_run_proportional {documents : List (List String)}
    (hdocuments : documents.length < 2 ^ 63) {ids : List String} {x : Index}
    (hx : Index.ofDocuments documents ids true = x) (hmode : settings.mode.pairing? = some pairing)
    {query : Query ℚ} (hterms : x.openTerms query.filtered settings.splitSynonyms = terms)
    (hsize : 2 ≤ terms.length) (results : ResultSet ℚ) (s : Session (Binding ℚ) ℚ) :
    ∃ outcome results', (proportional.run (.ok settings) x.source query results s).1 =
        (outcome, results') ∧
      proportional.LeavesAll settings pairing terms results results' outcome.failure := by
  subst hx
  obtain ⟨average, haverage⟩ : ∃ average : ℚ, (Index.ofDocuments documents ids
      true).statistics.averageWindows? settings.window = some average :=
    Statistics.exists_averageWindows?_rational _ _
  have hprepare : ∀ (phrase : Phrase ℚ) (s : Session (Binding ℚ) ℚ),
      phrase.Opens (Index.ofDocuments documents ids true) s terms →
      ∃ s', (proportional.function.prepare ((proportional.passOver settings pairing
        phrase).preparation phrase average)).exec s = (.ok (), s') ∧ True :=
    fun phrase s _ => ⟨_, rfl, trivial⟩
  obtain ⟨phrase, s₀, s₁, hweights, hlists, hready, -, hends⟩ :=
    exists_pass hmode hdocuments hterms hsize haverage hprepare s
  obtain ⟨outcome, results', s₂, hrun, hleaves⟩ := leavesAll_pass hweights hlists hready
  exact ⟨outcome, results', hends hrun, hleaves⟩

/-- With exact arithmetic the proportion of matching windows gives every pair a score between zero
and one. So a run never takes a score below its weighted score, and adds no more than the weights of
the pairs that were scored in the document. These are all pairs that are to be scored, and nothing
fails, when windows and documents have sizes that can be counted. A phrase of fewer than two terms
weights nothing. -/
theorem run_proportional_bounded [Table.Bounded]
    (hmode : settings.mode.pairing? = some pairing) (hpair : 0 ≤ settings.pairWeight pairing)
    {documents : List (List String)} (hdocuments : documents.length < 2 ^ 63)
    {ids : List String} {x : Index} (hx : Index.ofDocuments documents ids true = x)
    {query : Query ℚ} (hquery : ∀ t ∈ query.terms, 0 ≤ t.weight)
    (hterms : x.openTerms query.filtered settings.splitSynonyms = terms) (results : ResultSet ℚ)
    (s : Session (Binding ℚ) ℚ) :
    (∀ i a j b s₁ score s₂, (proportional.scorePair pairing settings.window i a j b).exec s₁ =
      (.ok score, s₂) → score ∈ Set.Icc 0 1) ∧
    ∃ outcome results', (proportional.run (.ok settings) x.source query results s).1 =
      (outcome, results') ∧
      (settings.window < 2 ^ 63 → (∀ document ∈ documents,
          Table.Fits (windowCount settings.window document.length).toNat) →
        outcome.failure = none) ∧
      (terms.length < 2 → results' = results) ∧
      (2 ≤ terms.length → ∀ row ∈ results.rows, ∃ (scored : List (ScoredPair ℚ)) (f : ℚ),
        results'.scoreOf row.docid = .ok f ∧
        scored.map ScoredPair.pair <+:
          plannedPairs settings pairing terms (Pass.allZero results) [row] ∧
        (outcome.failure = none → scored.map ScoredPair.pair =
          plannedPairs settings pairing terms (Pass.allZero results) [row]) ∧
        SumsUp settings pairing scored row.score f ∧ (∀ p ∈ scored, p.score ∈ Set.Icc 0 1) ∧
        settings.baseWeight * row.score ≤ f ∧
        f ≤ settings.baseWeight * row.score + settings.pairWeight pairing * (scored.map fun p =>
          WeightRule.combine settings.rule p.first.weight p.second.weight).sum) := by
  refine ⟨fun i a j b s₁ score s₂ h => scorePair_mem_Icc settings.one_le_window h, ?_⟩
  by_cases hfew : terms.length < 2
  · exact ⟨_, _, run_of_few_terms hterms hfew results s, fun _ _ => rfl, fun _ => rfl,
      fun hsize => by omega⟩
  · have hsize : 2 ≤ terms.length := by omega
    obtain ⟨outcome, results', hrun, hleaves⟩ :=
      leavesAll_run_proportional hdocuments hx hmode hterms hsize results s
    have hnonneg : ∀ t ∈ terms, 0 ≤ t.weight :=
      hterms ▸ Query.NonNegative.openTerms (Query.NonNegative.filtered hquery) x _
    refine ⟨outcome, results', hrun, fun hwindow hlengths => ?_, fun h => absurd h hfew,
      fun _ row hrow => ?_⟩
    · exact hleaves.failure_eq_none fun row _ pair hpair =>
        exists_answer hx hterms hwindow hlengths hpair
    · obtain ⟨row', hrow', hleft⟩ := hleaves.rows row hrow
      obtain ⟨hdocid, scored, hsums, hprefix, hall⟩ := hleft.exists_sumsUp
      have hweights : ∀ p ∈ scored, 0 ≤ p.first.weight ∧ 0 ≤ p.second.weight := by
        intro p hp
        have hplanned := hprefix.subset (List.mem_map_of_mem hp)
        obtain ⟨row₀, -, hpair₀⟩ := List.mem_flatMap.1 hplanned
        exact weights_nonneg_of_mem_pairsIn hnonneg hpair₀
      obtain ⟨hleast, hmost⟩ := hsums.mem_Icc hpair hweights
      exact ⟨scored, row'.score, hdocid ▸ results'.scoreOf_of_mem hrow', hprefix, hall, hsums,
        fun p hp => hsums.score_mem_Icc hp, hleast, hmost⟩

end Runs

attribute [local instance] Table.Memory.large Table.bounded_large

theorem run_proportional_bounded_of_two_words :
    (proportional.run (.ok Settings.doubling) (Index.ofDocuments [["a", "b"]] [] true).source
        (Query.ofTokens none ["a", "b"]) ⟨[⟨0, 1, 1⟩], by simp⟩
        (.start ℚ Binding.unbound)).1.2.scoreOf 0 = .ok (5 / 2) ∧
      (2 : ℚ) ≤ 5 / 2 ∧ (5 / 2 : ℚ) ≤ 2 + 1 := by
  have hbase : Settings.doubling.baseWeight * 1 = (2 : ℚ) := by
    unfold Settings.doubling
    norm_num
  have hpair : Settings.doubling.pairWeight .adjacent = (1 : ℚ) := Scalar.rational_one
  have hcombine : WeightRule.combine Settings.doubling.rule 1.0 1.0 = (1 : ℚ) :=
    WeightRule.combine_eq_one (.inr ⟨Scalar.rational_one, Scalar.rational_one⟩)
  have hquery : ∀ t ∈ (Query.ofTokens none ["a", "b"] : Query ℚ).terms, 0 ≤ t.weight := by
    refine Query.nonNegative_ofTerms none (List.forall_mem_map.2 fun token _ => ?_)
    exact zero_le_one.trans_eq Scalar.rational_one.symm
  have hkeeps : keepsScore Settings.doubling
      [(⟨"a", 1.0, ⟨some "a", #[⟨0, 2, [0]⟩], true⟩⟩ : OpenTerm ℚ),
        ⟨"b", 1.0, ⟨some "b", #[⟨0, 2, [1]⟩], true⟩⟩]
      (Pass.allZero (⟨[⟨0, 1, 1⟩], by simp⟩ : ResultSet ℚ)) ⟨0, 1, 1⟩ = false := by
    decide +kernel
  obtain ⟨-, outcome, results', hrun, hfailure, -, hbounds⟩ :=
    @run_proportional_bounded Settings.doubling .adjacent _ .large Table.bounded_large rfl
      (hpair ▸ zero_le_one) [["a", "b"]] (by decide) [] _ rfl (Query.ofTokens none ["a", "b"])
      hquery (openTerms_two true) ⟨[⟨0, 1, 1⟩], by simp⟩ (.start ℚ .unbound)
  obtain ⟨scored, f, hf, -, hall, hsums, -, hleast, hmost⟩ :=
    hbounds (by decide) ⟨0, 1, 1⟩ (by simp)
  have hpairs := hall (hfailure (by decide) (by decide))
  simp only [plannedPairs, List.filter_cons, hkeeps] at hpairs
  have hpairs : scored.map ScoredPair.pair =
      [(⟨0, 1.0, ⟨0, 2, [0]⟩⟩, ⟨1, 1.0, ⟨0, 2, [1]⟩⟩)] := hpairs
  obtain ⟨⟨first, second, matching, score⟩, rfl, hp⟩ := List.map_eq_singleton_iff.1 hpairs
  obtain ⟨rfl, rfl⟩ := Prod.mk.inj hp
  have hcount : Window.count .adjacent [0] [1] 2 2 = .ok matching :=
    hsums.counts _ (List.mem_singleton_self _)
  obtain rfl : 1 = matching := Except.ok.inj hcount
  have hscore : Scoring.proportion 1 2 = .ok score := hsums.scores _ (List.mem_singleton_self _)
  obtain rfl : (1 : ℚ) / 2 = score := Except.ok.inj hscore
  have hsum := hsums.sum
  simp only [List.map_singleton, List.sum_singleton, ScoredPair.share, hcombine, hpair, hbase,
    mul_one] at hsum hleast hmost
  obtain rfl : f = 5 / 2 := by rw [hsum]; norm_num
  rw [hrun]
  exact ⟨hf, hleast, hmost⟩

/-- A single word makes no phrase, so the score of its document is not doubled. -/
theorem run_proportional_of_one_word :
    (Index.ofDocuments [["a"]] [] true).openTerms (Query.ofTokens none ["a"] : Query ℚ).filtered
        Settings.doubling.splitSynonyms = [⟨"a", 1.0, ⟨some "a", #[⟨0, 1, [0]⟩], true⟩⟩] ∧
      (proportional.run (.ok Settings.doubling) (Index.ofDocuments [["a"]] [] true).source
        (Query.ofTokens none ["a"]) ⟨[⟨0, 1, 1⟩], by simp⟩
        (.start ℚ Binding.unbound)).1.2.scoreOf 0 = .ok 1 ∧
      ¬ Settings.doubling.baseWeight * 1 ≤ (1 : ℚ) := by
  have hrun : (proportional.run (.ok Settings.doubling) (Index.ofDocuments [["a"]] [] true).source
      (Query.ofTokens none ["a"]) ⟨[⟨0, 1, 1⟩], by simp⟩ (.start ℚ Binding.unbound)).1 =
        (.skipped, ⟨[⟨0, 1, 1⟩], by simp⟩) :=
    run_of_few_terms openTerms_one_rational (by decide) _ _
  refine ⟨openTerms_one_rational, ?_, ?_⟩
  · rw [hrun]
    rfl
  · unfold Settings.doubling
    norm_num

end Rescorer
end ProximityRanking
