import ProximityRanking.Proofs.Interruption
/-!
How a run ends. It is skipped, cut short by a failure, or applied in full; which of these is decided
by what the settings, the source, the scoring function and the counter answer (`Rescorer.Skips` and
`Rescorer.Raises`). A run that is skipped leaves the results as they were.
-/
set_option autoImplicit false

namespace ProximityRanking

variable {σ α β γ : Type} {s s' : Session σ α} {e : Failure}

namespace SessionM

def Fails (m : SessionM σ α β) (s : Session σ α) (e : Failure) : Prop :=
  ∃ s', m.exec s = (.error e, s')

theorem fails_bind_iff {m : SessionM σ α β} {f : β → SessionM σ α γ} :
    (m >>= f).Fails s e ↔ m.Fails s e ∨ ∃ x s', m.exec s = (.ok x, s') ∧ (f x).Fails s' e := by
  simp only [Fails, exec_bind_eq_error_iff]
  constructor
  · intro h
    obtain ⟨s'', hm | ⟨x, s', hm, hf⟩⟩ := h
    · exact .inl ⟨s'', hm⟩
    · exact .inr ⟨x, s', hm, s'', hf⟩
  · intro h
    obtain ⟨s'', hm⟩ | ⟨x, s', hm, s'', hf⟩ := h
    · exact ⟨s'', .inl hm⟩
    · exact ⟨s'', .inr ⟨x, s', hm, hf⟩⟩

theorem not_fails_pure (x : β) : ¬ (pure x : SessionM σ α β).Fails s e := by
  simp [Fails]

theorem fails_ofExcept_iff {r : Except Failure β} :
    (ofExcept r : SessionM σ α β).Fails s e ↔ r = .error e := by
  simp [Fails, exec_ofExcept]

theorem fails_count_iff {counter : PairCounter} {request : CountRequest} :
    (count counter request : SessionM σ α Int).Fails s e ↔
      counter.count s.answered request = .error e := by
  unfold Fails
  rw [exec_count]
  cases counter.count s.answered request <;> simp

theorem exec_count_eq_ok_iff {counter : PairCounter} {request : CountRequest} {n : Int} :
    (count counter request : SessionM σ α Int).exec s = (.ok n, s') ↔
      counter.count s.answered request = .ok n ∧
        { s with answered := s.answered.push request } = s' := by
  rw [exec_count]
  cases counter.count s.answered request <;> simp

theorem fails_onScorer_iff {m : ExceptT Failure (StateM σ) β} :
    (onScorer m : SessionM σ α β).Fails s e ↔ (m s.scorer).1 = .error e := by
  unfold Fails
  rcases h : m s.scorer with ⟨outcome, scorer⟩
  simp [exec, onScorer, h]

end SessionM

/-- What can fail when two terms are scored in a document: the positions of either, the counter, and
the scoring function, in this order. -/
inductive Rescorer.PairRaises (r : Rescorer σ α) (pairing : Pairing) (window : Int)
    (a b : Sighting) (s : Session σ α) (e : Failure) : Prop where
  | first (reads : a.positions = .error e)
  | second {first : List Int} (readFirst : a.positions = .ok first)
    (reads : b.positions = .error e)
  | count {first second : List Int} (readFirst : a.positions = .ok first)
    (readSecond : b.positions = .ok second)
    (counts : r.counter.count s.answered ⟨pairing, first, second, window, a.length⟩ = .error e)
  | score {first second : List Int} {n : Int} (readFirst : a.positions = .ok first)
    (readSecond : b.positions = .ok second)
    (counted : r.counter.count s.answered ⟨pairing, first, second, window, a.length⟩ = .ok n)
    (scores : (r.function.score n a.length s.scorer).1 = .error e)

theorem Rescorer.fails_scorePair_iff [Scalar α] {r : Rescorer σ α} {pairing : Pairing}
    {window : Int} {i j : Nat} {a b : Sighting} :
    (r.scorePair pairing window i a j b).Fails s e ↔ r.PairRaises pairing window a b s e := by
  unfold scorePair
  simp only [SessionM.fails_bind_iff, SessionM.exec_ofExcept, SessionM.fails_ofExcept_iff,
    SessionM.fails_count_iff, SessionM.exec_count_eq_ok_iff, SessionM.fails_onScorer_iff,
    Prod.mk.injEq]
  constructor
  · intro h
    obtain hfirst | ⟨first, s₁, ⟨hfirst, rfl⟩, h⟩ := h
    · exact .first hfirst
    obtain hsecond | ⟨second, s₁, ⟨hsecond, rfl⟩, h⟩ := h
    · exact .second hfirst hsecond
    obtain hcount | ⟨n, s₁, ⟨hcount, rfl⟩, h⟩ := h
    · exact .count hfirst hsecond hcount
    obtain hscore | ⟨score, s₁, -, h⟩ := h
    · exact .score hfirst hsecond hcount hscore
    · -- What is left to do, the report of a score that is not finite, cannot fail.
      obtain ⟨s₂, h⟩ := h
      split at h
      · cases h
      · cases h
  · intro h
    cases h with
    | first hfirst => exact .inl hfirst
    | second hfirst hsecond => exact .inr ⟨_, _, ⟨hfirst, rfl⟩, .inl hsecond⟩
    | count hfirst hsecond hcount =>
      exact .inr ⟨_, _, ⟨hfirst, rfl⟩, .inr ⟨_, _, ⟨hsecond, rfl⟩, .inl hcount⟩⟩
    | score hfirst hsecond hcount hscore =>
      exact .inr ⟨_, _, ⟨hfirst, rfl⟩, .inr ⟨_, _, ⟨hsecond, rfl⟩, .inr ⟨_, _, ⟨hcount, rfl⟩,
        .inl hscore⟩⟩⟩

namespace Pass

variable [Scalar α]

def addPair (p : Pass σ α) (total : α) (pair : Slot α × Slot α) : SessionM σ α α :=
  match pair.1.sighting, pair.2.sighting with
  | some a, some b => do
    let score ← p.rescorer.scorePair p.pairing p.settings.window pair.1.place a pair.2.place b
    let weight := WeightRule.combine p.settings.rule pair.1.weight pair.2.weight
    pure (total + score * weight * p.settings.pairWeight p.pairing)
  | _, _ => pure total

theorem addPairs_eq_foldlM (p : Pass σ α) (pairs : List (Slot α × Slot α)) (total : α) :
    p.addPairs pairs total = pairs.foldlM p.addPair total := by
  induction pairs generalizing total with
  | nil => rfl
  | cons pair rest ih =>
    obtain ⟨x, y⟩ := pair
    rw [addPairs.eq_def, List.foldlM_cons, addPair]
    cases hx : x.sighting with
    | none => simp only [hx, pure_bind, ih]
    | some a =>
      cases hy : y.sighting with
      | none => simp only [hx, hy, pure_bind, ih]
      | some b => simp only [hx, hy, bind_assoc, pure_bind, ih]

theorem fails_addPair_iff {p : Pass σ α} {total : α} {x y : Slot α} :
    (p.addPair total (x, y)).Fails s e ↔ ∃ a b, x.sighting = some a ∧ y.sighting = some b ∧
      p.rescorer.PairRaises p.pairing p.settings.window a b s e := by
  unfold addPair
  cases hx : x.sighting with
  | none => simp [SessionM.not_fails_pure]
  | some a =>
    cases hy : y.sighting with
    | none => simp [SessionM.not_fails_pure]
    | some b =>
      simp only [SessionM.fails_bind_iff, SessionM.not_fails_pure, Rescorer.fails_scorePair_iff]
      simp

theorem fails_boost_iff {p : Pass σ α} {slots : List (Slot α)} :
    (p.boost slots).Fails s e ↔
      ∃ before x y after a b total s', p.pairing.pairs slots = before ++ (x, y) :: after ∧
        (p.addPairs before 0.0).exec s = (.ok total, s') ∧
        x.sighting = some a ∧ y.sighting = some b ∧
        p.rescorer.PairRaises p.pairing p.settings.window a b s' e := by
  constructor
  · intro h
    obtain ⟨s₂, h⟩ := h
    rw [boost, addPairs_eq_foldlM, SessionM.exec_foldlM_eq_error_iff] at h
    obtain ⟨before, ⟨x, y⟩, after, total, s₁, hpairs, hadded, hfails⟩ := h
    obtain ⟨a, b, hx, hy, hraises⟩ := fails_addPair_iff.1 ⟨s₂, hfails⟩
    rw [← addPairs_eq_foldlM] at hadded
    exact ⟨before, x, y, after, a, b, total, s₁, hpairs, hadded, hx, hy, hraises⟩
  · intro h
    obtain ⟨before, x, y, after, a, b, total, s₁, hpairs, hadded, hx, hy, hraises⟩ := h
    obtain ⟨s₂, hfails⟩ := fails_addPair_iff.2 ⟨a, b, hx, hy, hraises⟩
    rw [addPairs_eq_foldlM] at hadded
    refine ⟨s₂, ?_⟩
    rw [boost, addPairs_eq_foldlM, SessionM.exec_foldlM_eq_error_iff]
    exact ⟨before, (x, y), after, total, s₁, hpairs, hadded, hfails⟩

end Pass

namespace Phrase

variable [Scalar α] {p p' : Phrase α}

theorem source_of_carryOut {r : OpeningRequest α}
    (h : (p.carryOut r).exec s = (.ok p', s')) : p'.source = p.source := by
  rw [exec_carryOut] at h
  split at h
  · cases h
  · cases h
    rfl
  · split at h <;> cases h <;> rfl

theorem source_of_carryOutAll {requests : List (OpeningRequest α)}
    (h : (p.carryOutAll requests).exec s = (.ok p', s')) : p'.source = p.source :=
  carryOutAll_invariant (P := fun p' _ => p'.source = p.source)
    (fun _ _ _ _ _ hsource hrun => (source_of_carryOut hrun).trans hsource) rfl h

theorem fails_ofQuery_iff {source : Source} {query : Query α} {splitSynonyms : Bool} :
    (Phrase.ofQuery source query splitSynonyms).Fails s e ↔
      ∃ before request after phrase s', query.requests splitSynonyms = before ++ request :: after ∧
        ((Phrase.mk source []).carryOutAll before).exec s = (.ok phrase, s') ∧
        source.find s'.opened request.opening = .error e := by
  constructor
  · intro h
    obtain ⟨s'', h⟩ := h
    obtain ⟨before, request, after, phrase, s', hrequests, hbefore, hrefused, -⟩ :=
      carryOutAll_eq_error_iff.1 h
    rw [source_of_carryOutAll hbefore] at hrefused
    exact ⟨before, request, after, phrase, s', hrequests, hbefore, hrefused⟩
  · intro h
    obtain ⟨before, request, after, phrase, s', hrequests, hbefore, hrefused⟩ := h
    have hsource : phrase.source = source := source_of_carryOutAll hbefore
    rw [← hsource] at hrefused
    exact ⟨phrase.closeIn s', carryOutAll_eq_error_iff.2
      ⟨before, request, after, phrase, s', hrequests, hbefore, hrefused, rfl⟩⟩

end Phrase

theorem DependencyMode.pairing?_eq_none_iff {m : DependencyMode} :
    m.pairing? = none ↔ m = .unset := by
  cases m <;> simp [pairing?]

theorem Pass.run_eq_ended [Scalar α] (p : Pass σ α) (phrase : Phrase α) (results : ResultSet α)
    (s : Session σ α) :
    ∃ altered failure results' s', p.run phrase results s =
      ((.ended altered failure, results'), s') := by
  rcases hready : (p.ready phrase).exec s with ⟨outcome, s₁⟩
  cases outcome with
  | error e => exact ⟨0, some e, results, s₁, run_of_ready_error hready results⟩
  | ok streams =>
    rcases hvisit : p.visit (allZero results) (p.weighted results).rows streams s₁ with
      ⟨progress, s₂⟩
    obtain ⟨results', hrun, -, -⟩ := run_of_ready_ok hready hvisit
    exact ⟨_, _, results', s₂, hrun⟩

namespace Rescorer

variable [Scalar α]

/-- A run comes to its pass: a mode is set, and the terms are open, two at least. -/
structure Begins (r : Rescorer σ α) (settings : Settings α) (pairing : Pairing) (source : Source)
    (query : Query α) (s : Session σ α) (phrase : Phrase α) (s₁ : Session σ α) : Prop where
  mode : settings.mode.pairing? = some pairing
  opened : (Phrase.ofQuery source query.filtered settings.splitSynonyms).exec
    (r.begun settings s) = (.ok phrase, s₁)
  size : 2 ≤ phrase.size

/-- A run has nothing to do: its settings cannot be read, or its terms are open and are fewer than
two, or no mode is set. -/
inductive Skips (r : Rescorer σ α) (reading : Except Settings.Fault (Settings α)) (source : Source)
    (query : Query α) (s : Session σ α) : Prop where
  | unreadable {fault : Settings.Fault} (read : reading = .error fault)
  | few {settings : Settings α} {phrase : Phrase α} {s₁ : Session σ α}
    (read : reading = .ok settings)
    (opened : (Phrase.ofQuery source query.filtered settings.splitSynonyms).exec
      (r.begun settings s) = (.ok phrase, s₁))
    (size : phrase.size < 2)
  | unset {settings : Settings α} {phrase : Phrase α} {s₁ : Session σ α}
    (read : reading = .ok settings)
    (opened : (Phrase.ofQuery source query.filtered settings.splitSynonyms).exec
      (r.begun settings s) = (.ok phrase, s₁))
    (mode : settings.mode = .unset)

/-- Something that a run asks for fails: a term is refused, the mean number of windows is too large
to be a number, the scoring function cannot be prepared, or a pair of terms cannot be scored in a
document, when all that comes before has been done. -/
inductive Raises (r : Rescorer σ α) (settings : Settings α) (source : Source) (query : Query α)
    (results : ResultSet α) (s : Session σ α) (e : Failure) : Prop where
  | opening {before after : List (OpeningRequest α)} {request : OpeningRequest α}
    {phrase : Phrase α} {s₁ : Session σ α}
    (requests : query.filtered.requests settings.splitSynonyms = before ++ request :: after)
    (opened : ((Phrase.mk source []).carryOutAll before).exec (r.begun settings s) =
      (.ok phrase, s₁))
    (refused : source.find s₁.opened request.opening = .error e)
  | average {pairing : Pairing} {phrase : Phrase α} {s₁ : Session σ α}
    (begins : r.Begins settings pairing source query s phrase s₁)
    (none : (source.statistics.averageWindows? settings.window : Option α) = none)
    (failure : e = .ratioTooLarge)
  | preparation {pairing : Pairing} {phrase : Phrase α} {mean : α} {s₁ : Session σ α}
    (begins : r.Begins settings pairing source query s phrase s₁)
    (average : source.statistics.averageWindows? settings.window = some mean)
    (fails : (r.function.prepare ((r.passOver settings pairing phrase).preparation phrase
      mean)).Fails (phrase.announced s₁) e)
  | pair {pairing : Pairing} {phrase : Phrase α} {streams : List Stream}
    {before after : List (Pass.Step α)} {row : Row α} {slots : List (Slot α)}
    {scored : List (Row α)} {earlier later : List (Slot α × Slot α)} {x y : Slot α}
    {a b : Sighting} {total : α} {s₁ s₂ s₃ s₄ : Session σ α}
    (begins : r.Begins settings pairing source query s phrase s₁)
    (ready : ((r.passOver settings pairing phrase).ready phrase).exec (phrase.announced s₁) =
      (.ok streams, s₂))
    (plan : (r.passOver settings pairing phrase).plan (Pass.allZero results)
      ((r.passOver settings pairing phrase).weighted results).rows streams =
        before ++ (row, some slots) :: after)
    (done : (before.mapM (r.passOver settings pairing phrase).carryOut).exec s₂ =
      (.ok scored, s₃))
    (pairs : pairing.pairs slots = earlier ++ (x, y) :: later)
    (added : ((r.passOver settings pairing phrase).addPairs earlier 0.0).exec s₃ =
      (.ok total, s₄))
    (first : x.sighting = some a)
    (second : y.sighting = some b)
    (raises : r.PairRaises pairing settings.window a b s₄ e)

variable {r : Rescorer σ α} {reading : Except Settings.Fault (Settings α)}
  {settings : Settings α} {pairing : Pairing} {source : Source} {query : Query α}
  {results : ResultSet α}

theorem run_of_skips (h : r.Skips reading source query s) :
    (r.run reading source query results s).1 = (.skipped, results) := by
  cases h with
  | unreadable hread =>
    subst hread
    rfl
  | @few settings phrase s₁ hread hopened hsize =>
    subst hread
    rw [run_eq, hopened]
    simp only [runPhrase_of_lt r settings hsize]
  | @unset settings phrase s₁ hread hopened hmode =>
    subst hread
    rw [run_eq, hopened]
    by_cases hsize : 2 ≤ phrase.size
    · have hnone := DependencyMode.pairing?_eq_none_iff.2 hmode
      simp only [runPhrase_of_unset hsize hnone]
    · simp only [runPhrase_of_lt r settings (Nat.lt_of_not_le hsize)]

theorem begins_of_not_skips (h : ¬ r.Skips reading source query s) :
    ∃ settings, reading = .ok settings ∧
      ((∃ e, (Phrase.ofQuery source query.filtered settings.splitSynonyms).Fails
        (r.begun settings s) e) ∨
      ∃ pairing phrase s₁, r.Begins settings pairing source query s phrase s₁) := by
  cases reading with
  | error fault => exact absurd (.unreadable rfl) h
  | ok settings =>
    refine ⟨settings, rfl, ?_⟩
    rcases hopened : (Phrase.ofQuery source query.filtered settings.splitSynonyms).exec
      (r.begun settings s) with ⟨outcome, s₁⟩
    cases outcome with
    | error e => exact .inl ⟨e, ⟨s₁, hopened⟩⟩
    | ok phrase =>
      have hsize : 2 ≤ phrase.size := Nat.le_of_not_lt fun hsize => h (.few rfl hopened hsize)
      cases hmode : settings.mode.pairing? with
      | none =>
        have hunset := DependencyMode.pairing?_eq_none_iff.1 hmode
        exact absurd (.unset rfl hopened hunset) h
      | some pairing => exact .inr ⟨pairing, phrase, s₁, hmode, hopened, hsize⟩

theorem run_of_not_skips (h : ¬ r.Skips reading source query s) :
    ∃ altered failure results', (r.run reading source query results s).1 =
      (.ended altered failure, results') := by
  obtain ⟨settings, rfl, hopened⟩ := begins_of_not_skips h
  obtain ⟨e, s₁, hfails⟩ | ⟨pairing, phrase, s₁, hbegins⟩ := hopened
  · exact ⟨0, some e, results, run_of_open_error hfails⟩
  · obtain ⟨altered, failure, results', s₂, hpass⟩ :=
      (r.passOver settings pairing phrase).run_eq_ended phrase results (phrase.announced s₁)
    exact ⟨altered, failure, results',
      run_of_open_ok hbegins.opened hbegins.size hbegins.mode hpass⟩

theorem Begins.source_eq {phrase : Phrase α} {s₁ : Session σ α}
    (h : r.Begins settings pairing source query s phrase s₁) : phrase.source = source :=
  Phrase.source_of_carryOutAll h.opened

theorem raises_of_fails_ofQuery
    (h : (Phrase.ofQuery source query.filtered settings.splitSynonyms).Fails (r.begun settings s)
      e) : r.Raises settings source query results s e := by
  obtain ⟨before, request, after, phrase, s', hrequests, hopened, hrefused⟩ :=
    Phrase.fails_ofQuery_iff.1 h
  exact .opening hrequests hopened hrefused

theorem FailsEarly.raises (hmode : settings.mode.pairing? = some pairing)
    (h : r.FailsEarly settings pairing source query s e) :
    r.Raises settings source query results s e := by
  cases h with
  | opening hfails => exact raises_of_fails_ofQuery ⟨_, hfails⟩
  | @average phrase s₁ hopened hsize hnone hfailure =>
    have hbegins : r.Begins settings pairing source query s phrase s₁ := ⟨hmode, hopened, hsize⟩
    rw [hbegins.source_eq] at hnone
    exact .average hbegins hnone hfailure
  | @preparation phrase mean s₁ s₂ hopened hsize haverage hfails =>
    have hbegins : r.Begins settings pairing source query s phrase s₁ := ⟨hmode, hopened, hsize⟩
    rw [hbegins.source_eq] at haverage
    exact .preparation hbegins haverage ⟨_, hfails⟩

theorem FailsAfter.raises (hmode : settings.mode.pairing? = some pairing)
    {before : List (Pass.Step α)}
    (h : r.FailsAfter settings pairing source query results s e before) :
    r.Raises settings source query results s e := by
  obtain ⟨hopened, hsize, hready, hplan, hdone, hfails⟩ := h
  obtain ⟨earlier, x, y, later, a, b, total, s', hpairs, hadded, hx, hy, hraises⟩ :=
    Pass.fails_boost_iff.1 ⟨_, hfails⟩
  exact .pair ⟨hmode, hopened, hsize⟩ hready hplan hdone hpairs hadded hx hy hraises

end Rescorer
end ProximityRanking
