import ProximityRanking.Proofs.CollectionFrequency
import ProximityRanking.Proofs.Endings
/-!
What a run asks and reports on its way. The pairs to be scored stand in a fixed order: documents
ascend, and in each the pairs follow the phrase. A run asks its counter about them one after the
other until it is done or something fails, and reports the scores that are not finite, no others, as
they come. They count in the sums of their documents all the same.
-/
set_option autoImplicit false

namespace ProximityRanking

variable {σ α : Type}

/-- A pair of terms that was scored in a document, with the number of windows it matched. -/
structure ScoredPair (α : Type) where
  first : Occurrence α
  second : Occurrence α
  matching : Int
  score : α

namespace ScoredPair

def pair (p : ScoredPair α) : Occurrence α × Occurrence α :=
  (p.first, p.second)

def docid (p : ScoredPair α) : Int :=
  p.first.posting.docid

variable [Scalar α]

def warning? (function : String) (p : ScoredPair α) : Option (Event α) :=
  if Scalar.isFinite p.score then none
  else some (.anomaly ⟨function, p.score, p.docid, p.first.place, p.second.place, p.matching,
    p.first.posting.length⟩)

def share (settings : Settings α) (pairing : Pairing) (p : ScoredPair α) : α :=
  p.score * WeightRule.combine settings.rule p.first.weight p.second.weight *
    settings.pairWeight pairing

end ScoredPair

def pairRequest (pairing : Pairing) (window : Int) (pair : Occurrence α × Occurrence α) :
    CountRequest :=
  requestFor pairing window (pair.1.posting, pair.2.posting)

def Session.warnings (s : Session σ α) : List (Event α) :=
  s.events.toList.filter (·.level = .warning)

theorem Session.warnings_report (s : Session σ α) (e : Event α) :
    (s.report e).warnings = s.warnings ++ if e.level = .warning then [e] else [] := by
  unfold warnings report
  rw [Array.toList_push, List.filter_append]
  by_cases h : e.level = .warning <;> simp [h]

namespace Rescorer

/-- A rescorer scores pairs one after the other, from a state of its scoring function and the
requests that its counter answered before. -/
inductive Evaluates (r : Rescorer σ α) (pairing : Pairing) (window : Int) :
    σ → Array CountRequest → List (ScoredPair α) → σ → Array CountRequest → Prop where
  | nil (scorer : σ) (answered : Array CountRequest) :
    Evaluates r pairing window scorer answered [] scorer answered
  | cons {scorer scorer₁ scorer₂ : σ} {answered answered₂ : Array CountRequest}
    {p : ScoredPair α} {later : List (ScoredPair α)}
    (counts : r.counter.count answered (pairRequest pairing window p.pair) = .ok p.matching)
    (scores : r.function.score p.matching p.first.posting.length scorer = (.ok p.score, scorer₁))
    (rest : Evaluates r pairing window scorer₁ (answered.push (pairRequest pairing window p.pair))
      later scorer₂ answered₂) :
    Evaluates r pairing window scorer answered (p :: later) scorer₂ answered₂

namespace Evaluates

variable {r : Rescorer σ α} {pairing : Pairing} {window : Int} {scorer scorer₁ scorer₂ : σ}
  {answered answered₁ answered₂ : Array CountRequest} {scored scored' : List (ScoredPair α)}

theorem append (h : r.Evaluates pairing window scorer answered scored scorer₁ answered₁)
    (h' : r.Evaluates pairing window scorer₁ answered₁ scored' scorer₂ answered₂) :
    r.Evaluates pairing window scorer answered (scored ++ scored') scorer₂ answered₂ := by
  induction h with
  | nil => exact h'
  | cons counts scores _ ih => exact .cons counts scores (ih h')

theorem toList_answered (h : r.Evaluates pairing window scorer answered scored scorer₁ answered₁) :
    answered₁.toList =
      answered.toList ++ (scored.map ScoredPair.pair).map (pairRequest pairing window) := by
  induction h with
  | nil => simp
  | cons counts scores _ ih => simp [ih]

end Evaluates

variable [Scalar α]

/-- Between two sessions some pairs were scored, and nothing else was asked or warned of. -/
structure Scored (r : Rescorer σ α) (pairing : Pairing) (window : Int) (s : Session σ α)
    (scored : List (ScoredPair α)) (s' : Session σ α) : Prop where
  evaluates : r.Evaluates pairing window s.scorer s.answered scored s'.scorer s'.answered
  warnings : s'.warnings = s.warnings ++ scored.filterMap (·.warning? r.function.name)

theorem Scored.nil (r : Rescorer σ α) (pairing : Pairing) (window : Int) (s : Session σ α) :
    r.Scored pairing window s [] s :=
  ⟨.nil _ _, (List.append_nil _).symm⟩

theorem Scored.append {r : Rescorer σ α} {pairing : Pairing} {window : Int}
    {s s₁ s₂ : Session σ α} {scored scored' : List (ScoredPair α)}
    (h : r.Scored pairing window s scored s₁) (h' : r.Scored pairing window s₁ scored' s₂) :
    r.Scored pairing window s (scored ++ scored') s₂ := by
  refine ⟨h.evaluates.append h'.evaluates, ?_⟩
  rw [h'.warnings, h.warnings, List.filterMap_append, List.append_assoc]

/-- The scoring of a pair fails: the counter refuses it, or the scoring function does, once the
counter has answered. -/
inductive StopsAt (r : Rescorer σ α) (pairing : Pairing) (window : Int)
    (pair : Occurrence α × Occurrence α) (scorer : σ) (answered : Array CountRequest)
    (e : Failure) : Array CountRequest → Prop where
  | refused (refuses : r.counter.count answered (pairRequest pairing window pair) = .error e) :
    StopsAt r pairing window pair scorer answered e answered
  | unscored {matching : Int}
    (counts : r.counter.count answered (pairRequest pairing window pair) = .ok matching)
    (raises : (r.function.score matching pair.1.posting.length scorer).1 = .error e) :
    StopsAt r pairing window pair scorer answered e
      (answered.push (pairRequest pairing window pair))

variable {r : Rescorer σ α} {pairing : Pairing} {window : Int} {a b : Occurrence α}
  {s s' : Session σ α}

theorem scored_of_scorePair_eq_ok {x : α}
    (h : (r.scorePair pairing window a.place (.ofPosting a.posting) b.place
      (.ofPosting b.posting)).exec s = (.ok x, s')) :
    ∃ matching, r.Scored pairing window s [⟨a, b, matching, x⟩] s' := by
  obtain ⟨first, s₁, hfirst, h⟩ := SessionM.exec_bind_eq_ok.1 h
  obtain ⟨second, s₂, hsecond, h⟩ := SessionM.exec_bind_eq_ok.1 h
  obtain ⟨matching, s₃, hcount, h⟩ := SessionM.exec_bind_eq_ok.1 h
  obtain ⟨score, s₄, hscore, h⟩ := SessionM.exec_bind_eq_ok.1 h
  cases hfirst
  cases hsecond
  obtain ⟨hcounts, rfl⟩ := SessionM.exec_count_eq_ok_iff.1 hcount
  rcases hrun : r.function.score matching a.posting.length s.scorer with ⟨outcome, scorer⟩
  simp only [SessionM.exec, SessionM.onScorer, Sighting.ofPosting, hrun, Prod.mk.injEq] at hscore
  obtain ⟨rfl, rfl⟩ := hscore
  refine ⟨matching, ?_⟩
  cases hfinite : Scalar.isFinite score with
  | true =>
    simp only [hfinite] at h
    cases h
    exact ⟨.cons hcounts hrun (.nil _ _), by simp [ScoredPair.warning?, hfinite, Session.warnings]⟩
  | false =>
    simp only [hfinite] at h
    cases h
    refine ⟨.cons hcounts hrun (.nil _ _), (Session.warnings_report _ _).trans ?_⟩
    simp [ScoredPair.warning?, hfinite, Event.level, Session.warnings]
    exact ⟨rfl, rfl⟩

variable {settings : Settings α}

theorem scored_of_sumPairs_eq_ok {pairs : List (Occurrence α × Occurrence α)} {total x : α}
    (h : (r.sumPairs settings pairing pairs total).exec s = (.ok x, s')) :
    ∃ scored, scored.map ScoredPair.pair = pairs ∧
      x = (scored.map (·.share settings pairing)).foldl (· + ·) total ∧
      r.Scored pairing settings.window s scored s' := by
  induction pairs generalizing total s with
  | nil =>
    cases h
    exact ⟨[], rfl, rfl, .nil r pairing _ _⟩
  | cons pair rest ih =>
    obtain ⟨a, b⟩ := pair
    rw [sumPairs, List.foldlM_cons, bind_assoc] at h
    obtain ⟨score, s₁, hscore, h⟩ := SessionM.exec_bind_eq_ok.1 h
    rw [pure_bind] at h
    obtain ⟨matching, hfirst⟩ := scored_of_scorePair_eq_ok hscore
    obtain ⟨scored, hpairs, hx, hrest⟩ := ih h
    refine ⟨⟨a, b, matching, score⟩ :: scored, ?_, hx, hfirst.append hrest⟩
    rw [List.map_cons, hpairs]
    rfl

omit [Scalar α] in
theorem mem_occurrences_of_mem_pairsIn {terms : List (OpenTerm α)} {docid : Int}
    {pair : Occurrence α × Occurrence α} (h : pair ∈ pairsIn pairing terms docid) :
    some pair.1 ∈ occurrences terms docid ∧ some pair.2 ∈ occurrences terms docid := by
  obtain ⟨⟨a, b⟩, hmem, hboth⟩ := List.mem_filterMap.1 h
  obtain ⟨first, rfl, second, rfl, rfl⟩ : ∃ first, a = some first ∧ ∃ second, b = some second ∧
      (first, second) = pair := by
    simpa [bothOf, Option.bind_eq_some_iff] using hboth
  exact pairing.mem_of_mem_pairs hmem

/-- The pairs of some rows, in the order in which they are to be scored. -/
def plannedPairs (settings : Settings α) (pairing : Pairing) (terms : List (OpenTerm α))
    (allZero : Bool) (rows : List (Row α)) : List (Occurrence α × Occurrence α) :=
  (rows.filter (!keepsScore settings terms allZero ·)).flatMap (pairsIn pairing terms ·.docid)

variable {terms : List (OpenTerm α)} {allZero : Bool}

end Rescorer

structure Session.Silence (s s' : Session σ α) : Prop where
  answered : s'.answered = s.answered
  warnings : s'.warnings = s.warnings

namespace Session.Silence

variable {s s₁ s₂ : Session σ α}

theorem refl (s : Session σ α) : s.Silence s :=
  ⟨rfl, rfl⟩

theorem trans (h : s.Silence s₁) (h' : s₁.Silence s₂) : s.Silence s₂ :=
  ⟨h'.answered.trans h.answered, h'.warnings.trans h.warnings⟩

theorem report (s : Session σ α) {e : Event α} (h : e.level ≠ .warning) :
    s.Silence (s.report e) := by
  refine ⟨rfl, ?_⟩
  rw [warnings_report, if_neg h, List.append_nil]

end Session.Silence

namespace Phrase

variable [Scalar α]

end Phrase

namespace Rescorer

variable [Scalar α]

variable {r : Rescorer σ α} {settings : Settings α} {pairing : Pairing} {window : Int}
  {terms : List (OpenTerm α)} {s s₁ s₂ s₃ : Session σ α}

/-- How far a run comes with the pairs that it is to score: to the end, not to the first one if it
does not get ready, or to a pair that cannot be scored. -/
inductive Proceeds (r : Rescorer σ α) (pairing : Pairing) (window : Int)
    (planned : List (Occurrence α × Occurrence α)) (start : Except Failure (List Stream))
    (scorer : σ) (answered : Array CountRequest) :
    List (ScoredPair α) → Array CountRequest → Option Failure → Prop where
  | done {streams : List Stream} {scored : List (ScoredPair α)} {scorer₁ : σ}
    {answered₁ : Array CountRequest} (starts : start = .ok streams)
    (evaluates : r.Evaluates pairing window scorer answered scored scorer₁ answered₁)
    (pairs : planned = scored.map ScoredPair.pair) :
    Proceeds r pairing window planned start scorer answered scored answered₁ none
  | unready {e : Failure} (fails : start = .error e) :
    Proceeds r pairing window planned start scorer answered [] answered (some e)
  | stopped {streams : List Stream} {scored : List (ScoredPair α)} {scorer₁ : σ}
    {answered₁ answered₂ : Array CountRequest} {pair : Occurrence α × Occurrence α}
    {rest : List (Occurrence α × Occurrence α)} {e : Failure} (starts : start = .ok streams)
    (evaluates : r.Evaluates pairing window scorer answered scored scorer₁ answered₁)
    (pairs : planned = scored.map ScoredPair.pair ++ pair :: rest)
    (stops : r.StopsAt pairing window pair scorer₁ answered₁ e answered₂) :
    Proceeds r pairing window planned start scorer answered scored answered₂ (some e)

omit [Scalar α] in
theorem Proceeds.exists_calls {planned : List (Occurrence α × Occurrence α)} {scorer : σ}
    {answered answered' : Array CountRequest} {scored : List (ScoredPair α)}
    {start : Except Failure (List Stream)} {failure : Option Failure}
    (h : r.Proceeds pairing window planned start scorer answered scored answered' failure) :
    ∃ calls, answered'.toList = answered.toList ++ calls.map (pairRequest pairing window) ∧
      scored.map ScoredPair.pair <+: calls ∧ calls <+: planned ∧
      (failure = none → calls = planned) := by
  cases h with
  | done starts evaluates pairs =>
    subst pairs
    exact ⟨_, evaluates.toList_answered, List.prefix_refl _, List.prefix_refl _, fun _ => rfl⟩
  | unready fails => exact ⟨[], by simp, List.prefix_refl _, List.nil_prefix, by simp⟩
  | @stopped streams scored scorer₁ answered₁ answered₂ pair rest e starts evaluates pairs stops =>
    subst pairs
    cases stops with
    | refused refuses =>
      exact ⟨_, evaluates.toList_answered, List.prefix_refl _, List.prefix_append _ _, by simp⟩
    | unscored counts raises =>
      refine ⟨scored.map ScoredPair.pair ++ [pair], ?_, List.prefix_append _ _, ⟨rest, by simp⟩,
        by simp⟩
      rw [Array.toList_push, evaluates.toList_answered, List.append_assoc, List.map_append]
      rfl

variable {results : ResultSet α}

theorem scoreRow_passOver {phrase : Phrase α}
    (hweights : phrase.terms.map PhraseTerm.weight = terms.map OpenTerm.weight)
    (hpositional : ∀ t ∈ terms, t.list.positional = true) (allZero : Bool) :
    (r.passOver settings pairing phrase).scoreRow (terms.map OpenTerm.list) allZero =
      r.scoreByLookUp settings pairing terms allZero :=
  Pass.scoreRow_eq hweights hpositional allZero

section Pass

variable {phrase : Phrase α}
  (hweights : phrase.terms.map PhraseTerm.weight = terms.map OpenTerm.weight)
  (hascends : ∀ t ∈ terms, t.list.Ascends) (hpositional : ∀ t ∈ terms, t.list.positional = true)
  (hready : ((r.passOver settings pairing phrase).ready phrase).exec s =
    (.ok (terms.map fun t => (Stream.ofList t.list).step), s₁))

include hweights hascends hpositional hready

end Pass

end Rescorer
end ProximityRanking
