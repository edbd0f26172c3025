import ProximityRanking.Proofs.Opening
import ProximityRanking.Proofs.Visiting
/-!
Runs that are cut short. A failure before the documents are visited changes nothing. One that
strikes while the pairs of a document are scored leaves the documents before it with the scores that
they have in every run that does not fail there, and the others with their weighted scores.
-/
set_option autoImplicit false

namespace ProximityRanking

variable {σ α : Type}

namespace Rescorer

/-- A rescorer that answers in the same way wherever another one does not fail. -/
structure Extends (r' r : Rescorer σ α) : Prop where
  name : r'.function.name = r.function.name
  prepare : ∀ (context : Context α) pairing (phrase : Phrase α) s s',
    (r.function.prepare ⟨context, pairing, some (phrase, r.counter)⟩).exec s = (.ok (), s') →
      (r'.function.prepare ⟨context, pairing, some (phrase, r'.counter)⟩).exec s = (.ok (), s')
  count : ∀ answered request n, r.counter.count answered request = .ok n →
    r'.counter.count answered request = .ok n
  score : ∀ matching length scorer x scorer',
    r.function.score matching length scorer = (.ok x, scorer') →
      r'.function.score matching length scorer = (.ok x, scorer')

namespace Extends

variable {r r' : Rescorer σ α}

theorem begun (h : r'.Extends r) (settings : Settings α) (s : Session σ α) :
    r'.begun settings s = r.begun settings s := by
  unfold Rescorer.begun label
  rw [h.name]

theorem exec_count (h : r'.Extends r) {request : CountRequest} {n : Int} {s s' : Session σ α}
    (hn : (SessionM.count r.counter request).exec s = (.ok n, s')) :
    (SessionM.count r'.counter request).exec s = (.ok n, s') := by
  rw [SessionM.exec_count] at hn ⊢
  cases hcount : r.counter.count s.answered request with
  | error e => simp [hcount] at hn
  | ok m =>
    rw [h.count _ _ _ hcount]
    rwa [hcount] at hn

theorem exec_score (h : r'.Extends r) {matching length : Int} {x : α} {s s' : Session σ α}
    (hx : (SessionM.onScorer (r.function.score matching length)).exec s = (.ok x, s')) :
    (SessionM.onScorer (r'.function.score matching length)).exec s = (.ok x, s') := by
  rcases hscore : r.function.score matching length s.scorer with ⟨outcome, scorer⟩
  simp only [SessionM.exec, SessionM.onScorer, hscore, Prod.mk.injEq] at hx ⊢
  obtain ⟨rfl, rfl⟩ := hx
  rw [h.score _ _ _ _ _ hscore]

variable [Scalar α]

theorem scorePair (h : r'.Extends r) {pairing : Pairing} {window : Int} {i j : Nat}
    {a b : Sighting} {x : α} {s s' : Session σ α}
    (hx : (r.scorePair pairing window i a j b).exec s = (.ok x, s')) :
    (r'.scorePair pairing window i a j b).exec s = (.ok x, s') := by
  obtain ⟨first, s₁, hfirst, hx⟩ := SessionM.exec_bind_eq_ok.1 hx
  obtain ⟨second, s₂, hsecond, hx⟩ := SessionM.exec_bind_eq_ok.1 hx
  obtain ⟨matching, s₃, hcount, hx⟩ := SessionM.exec_bind_eq_ok.1 hx
  obtain ⟨score, s₄, hscore, hx⟩ := SessionM.exec_bind_eq_ok.1 hx
  unfold Rescorer.scorePair
  rw [SessionM.exec_bind_of_ok hfirst, SessionM.exec_bind_of_ok hsecond,
    SessionM.exec_bind_of_ok (h.exec_count hcount), SessionM.exec_bind_of_ok (h.exec_score hscore),
    h.name]
  exact hx

variable {settings : Settings α} {pairing : Pairing} {phrase : Phrase α}

theorem addPairs (h : r'.Extends r) {pairs : List (Slot α × Slot α)} {total x : α}
    {s s' : Session σ α}
    (hx : ((r.passOver settings pairing phrase).addPairs pairs total).exec s = (.ok x, s')) :
    ((r'.passOver settings pairing phrase).addPairs pairs total).exec s = (.ok x, s') := by
  induction pairs generalizing total s with
  | nil => exact hx
  | cons pair rest ih =>
    obtain ⟨a, b⟩ := pair
    rw [Pass.addPairs.eq_def] at hx ⊢
    cases ha : a.sighting with
    | none =>
      simp only [ha] at hx ⊢
      exact ih hx
    | some sa =>
      cases hb : b.sighting with
      | none =>
        simp only [ha, hb] at hx ⊢
        exact ih hx
      | some sb =>
        simp only [ha, hb] at hx ⊢
        obtain ⟨score, s₁, hscore, hx⟩ := SessionM.exec_bind_eq_ok.1 hx
        exact SessionM.exec_bind_eq_ok.2 ⟨score, s₁, h.scorePair hscore, ih hx⟩

theorem carryOut (h : r'.Extends r) (step : Pass.Step α) {s s' : Session σ α} {row : Row α}
    (hrow : ((r.passOver settings pairing phrase).carryOut step).exec s = (.ok row, s')) :
    ((r'.passOver settings pairing phrase).carryOut step).exec s = (.ok row, s') := by
  obtain ⟨row₀, slots⟩ := step
  cases slots with
  | none => exact hrow
  | some slots =>
    obtain ⟨x, s₁, hx, hrow⟩ := SessionM.exec_bind_eq_ok.1 hrow
    exact SessionM.exec_bind_eq_ok.2 ⟨x, s₁, h.addPairs hx, hrow⟩

theorem ready (h : r'.Extends r) {streams : List Stream} {s s' : Session σ α}
    (hready : ((r.passOver settings pairing phrase).ready phrase).exec s = (.ok streams, s')) :
    ((r'.passOver settings pairing phrase).ready phrase).exec s = (.ok streams, s') := by
  unfold Pass.ready at hready ⊢
  obtain ⟨s₀, s₁, hget, hready⟩ := SessionM.exec_bind_eq_ok.1 hready
  obtain ⟨average, s₂, haverage, hready⟩ := SessionM.exec_bind_eq_ok.1 hready
  obtain ⟨done, s₃, hprepare, hready⟩ := SessionM.exec_bind_eq_ok.1 hready
  exact SessionM.exec_bind_eq_ok.2 ⟨s₀, s₁, hget, SessionM.exec_bind_eq_ok.2 ⟨average, s₂, haverage,
    SessionM.exec_bind_eq_ok.2 ⟨done, s₃, h.prepare _ _ _ _ _ hprepare, hready⟩⟩⟩

theorem plan_eq (r r' : Rescorer σ α) (allZero : Bool) (rows : List (Row α))
    (streams : List Stream) :
    (r'.passOver settings pairing phrase).plan allZero rows streams =
      (r.passOver settings pairing phrase).plan allZero rows streams := by
  induction rows generalizing streams with
  | nil => rfl
  | cons row rest ih =>
    simp only [Pass.plan, ih]
    rfl

theorem take_rows_run (h : r'.Extends r) {results : ResultSet α} {streams : List Stream}
    {before after : List (Pass.Step α)} {scored : List (Row α)} {s s₁ s₂ : Session σ α}
    (hready : ((r.passOver settings pairing phrase).ready phrase).exec s = (.ok streams, s₁))
    (hplan : (r.passOver settings pairing phrase).plan (Pass.allZero results)
      ((r.passOver settings pairing phrase).weighted results).rows streams = before ++ after)
    (hbefore : (before.mapM (r.passOver settings pairing phrase).carryOut).exec s₁ =
      (.ok scored, s₂)) :
    ((r'.passOver settings pairing phrase).run phrase results s).1.2.rows.take before.length =
      scored := by
  rw [← plan_eq r r'] at hplan
  have hbefore' := SessionM.exec_mapM_of_imp (fun step _ _ _ => h.carryOut step) hbefore
  obtain ⟨rows', streams', -, progress, hvisit, hrescored, -, -⟩ :=
    Pass.visit_append hplan hbefore'
  obtain ⟨results', hrun, hrows, -⟩ := Pass.run_of_ready_ok (h.ready hready) hvisit
  rw [hrun, hrows, hrescored, ← SessionM.length_of_exec_mapM hbefore]
  exact List.take_left

end Extends

variable [Scalar α]

/-- A run fails before it comes to the documents: a term cannot be opened, the mean number of
windows is too large to be a number, or the scoring function cannot be prepared. -/
inductive FailsEarly (r : Rescorer σ α) (settings : Settings α) (pairing : Pairing)
    (source : Source) (query : Query α) (s : Session σ α) (e : Failure) : Prop where
  | opening {s₁ : Session σ α}
    (fails : (Phrase.ofQuery source query.filtered settings.splitSynonyms).exec
      (r.begun settings s) = (.error e, s₁))
  | average {phrase : Phrase α} {s₁ : Session σ α}
    (opened : (Phrase.ofQuery source query.filtered settings.splitSynonyms).exec
      (r.begun settings s) = (.ok phrase, s₁))
    (size : 2 ≤ phrase.size)
    (none : (phrase.source.statistics.averageWindows? settings.window : Option α) = none)
    (failure : e = .ratioTooLarge)
  | preparation {phrase : Phrase α} {mean : α} {s₁ s₂ : Session σ α}
    (opened : (Phrase.ofQuery source query.filtered settings.splitSynonyms).exec
      (r.begun settings s) = (.ok phrase, s₁))
    (size : 2 ≤ phrase.size)
    (average : phrase.source.statistics.averageWindows? settings.window = some mean)
    (fails : (r.function.prepare
      ((r.passOver settings pairing phrase).preparation phrase mean)).exec
        (phrase.announced s₁) = (.error e, s₂))

/-- A run fails while the pairs of a document are scored, when some steps of its plan are done. -/
inductive FailsAfter (r : Rescorer σ α) (settings : Settings α) (pairing : Pairing)
    (source : Source) (query : Query α) (results : ResultSet α) (s : Session σ α) (e : Failure)
    (before : List (Pass.Step α)) : Prop where
  | pair {phrase : Phrase α} {streams : List Stream} {row : Row α} {slots : List (Slot α)}
    {after : List (Pass.Step α)} {scored : List (Row α)} {s₁ s₂ s₃ s₄ : Session σ α}
    (opened : (Phrase.ofQuery source query.filtered settings.splitSynonyms).exec
      (r.begun settings s) = (.ok phrase, s₁))
    (size : 2 ≤ phrase.size)
    (ready : ((r.passOver settings pairing phrase).ready phrase).exec (phrase.announced s₁) =
      (.ok streams, s₂))
    (plan : (r.passOver settings pairing phrase).plan (Pass.allZero results)
      ((r.passOver settings pairing phrase).weighted results).rows streams =
        before ++ (row, some slots) :: after)
    (done : (before.mapM (r.passOver settings pairing phrase).carryOut).exec s₂ =
      (.ok scored, s₃))
    (fails : ((r.passOver settings pairing phrase).boost slots).exec s₃ = (.error e, s₄))

variable {r : Rescorer σ α} {settings : Settings α} {pairing : Pairing} {source : Source}
  {query : Query α} {results : ResultSet α} {s : Session σ α} {e : Failure}

theorem FailsEarly.run_eq (hmode : settings.mode.pairing? = some pairing)
    (h : r.FailsEarly settings pairing source query s e) (results : ResultSet α) :
    (r.run (.ok settings) source query results s).1 = (⟨.cutShort, 0, some e⟩, results) := by
  cases h with
  | opening hfails => exact run_of_open_error hfails
  | @average phrase s₁ hopened hsize hnone hfailure =>
    subst hfailure
    have hready : ((r.passOver settings pairing phrase).ready phrase).exec (phrase.announced s₁) =
        (.error .ratioTooLarge, phrase.announced s₁) := Pass.ready_of_none hnone _
    exact run_of_open_ok hopened hsize hmode (Pass.run_of_ready_error hready results)
  | @preparation phrase mean s₁ s₂ hopened hsize haverage hfails =>
    have hready : ((r.passOver settings pairing phrase).ready phrase).exec (phrase.announced s₁) =
        (.error e, s₂) := Pass.ready_of_prepare_error haverage hfails
    exact run_of_open_ok hopened hsize hmode (Pass.run_of_ready_error hready results)

theorem FailsAfter.run_eq (hmode : settings.mode.pairing? = some pairing)
    {before : List (Pass.Step α)}
    (h : r.FailsAfter settings pairing source query results s e before) :
    ∃ results', (r.run (.ok settings) source query results s).1 =
        (⟨.cutShort, Pass.entered before + 1, some e⟩, results') ∧
      results'.Rescores results ∧
      results'.rows.drop before.length = (results.sortByDocid.rows.drop before.length).map
        (fun row => { row with score := row.score * settings.baseWeight }) ∧
      ∀ r' : Rescorer σ α, r'.Extends r →
        (r'.run (.ok settings) source query results s).1.2.rows.take before.length =
          results'.rows.take before.length := by
  obtain ⟨hopened, hsize, hready, hplan, hdone, hfails⟩ := h
  rename_i phrase streams row slots after scored s₁ s₂ s₃ s₄
  obtain ⟨progress, hvisit, hrescored, haltered, hfailure⟩ :=
    Pass.visit_of_error hplan hdone hfails
  obtain ⟨results', hpass, hrows, hrescores⟩ := Pass.run_of_ready_ok hready hvisit
  have hrun := run_of_open_ok hopened hsize hmode hpass
  have hlength := SessionM.length_of_exec_mapM hdone
  rw [haltered, hfailure] at hrun
  rw [hrescored] at hrows
  refine ⟨results', hrun, hrescores, ?_, fun r' h' => ?_⟩
  · have hweighted := Pass.map_fst_plan (r.passOver settings pairing phrase) (Pass.allZero results)
      ((r.passOver settings pairing phrase).weighted results).rows streams
    rw [hplan] at hweighted
    have hdrop := congrArg (List.drop before.length) hweighted
    rw [List.map_append, List.drop_left' (List.length_map _)] at hdrop
    rw [hrows, List.drop_left' hlength, List.map_drop]
    exact hdrop
  · rcases hpass' : (r'.passOver settings pairing phrase).run phrase results
      (phrase.announced s₁) with ⟨⟨outcome, results₂⟩, s'⟩
    rw [← h'.begun settings s] at hopened
    have hrun' := run_of_open_ok hopened hsize hmode hpass'
    have htake := h'.take_rows_run hready hplan hdone
    rw [hpass'] at htake
    rw [hrun', htake, hrows, List.take_left' hlength]

theorem failsEarly_or_failsAfter (hmode : settings.mode.pairing? = some pairing)
    (h : (r.run (.ok settings) source query results s).1.1.failure = some e) :
    r.FailsEarly settings pairing source query s e ∨
      ∃ before, r.FailsAfter settings pairing source query results s e before := by
  -- The parts of a run one after the other: the first one that fails decides the case.
  rcases hopened : (Phrase.ofQuery source query.filtered settings.splitSynonyms).exec
    (r.begun settings s) with ⟨opening, s₁⟩
  cases opening with
  | error e' =>
    rw [run_of_open_error hopened] at h
    obtain rfl : e' = e := Option.some.inj h
    exact .inl (.opening hopened)
  | ok phrase =>
    by_cases hsize : 2 ≤ phrase.size
    · rcases hready : ((r.passOver settings pairing phrase).ready phrase).exec
        (phrase.announced s₁) with ⟨readying, s₂⟩
      cases readying with
      | error e' =>
        rw [run_of_open_ok hopened hsize hmode (Pass.run_of_ready_error hready results)] at h
        obtain rfl : e' = e := Option.some.inj h
        rcases Pass.ready_eq_error hready with ⟨hnone, rfl⟩ | ⟨mean, haverage, hfails⟩
        · exact .inl (.average hopened hsize hnone rfl)
        · exact .inl (.preparation hopened hsize haverage hfails)
      | ok streams =>
        rcases hsteps : (((r.passOver settings pairing phrase).plan (Pass.allZero results)
          ((r.passOver settings pairing phrase).weighted results).rows streams).mapM
            (r.passOver settings pairing phrase).carryOut).exec s₂ with ⟨scoring, s₃⟩
        cases scoring with
        | ok rows =>
          obtain ⟨progress, hvisit, -, -, hfailure⟩ := Pass.visit_of_ok hsteps
          obtain ⟨results', hpass, -, -⟩ := Pass.run_of_ready_ok hready hvisit
          rw [run_of_open_ok hopened hsize hmode hpass, hfailure] at h
          cases h
        | error e' =>
          obtain ⟨before, ⟨row, slots⟩, after, scored, s₄, hplan, hdone, hfails⟩ :=
            SessionM.exists_of_exec_mapM_error hsteps
          obtain ⟨slots, rfl, hboost⟩ := Pass.boost_of_carryOut_error hfails
          have hafter : r.FailsAfter settings pairing source query results s e' before :=
            .pair hopened hsize hready hplan hdone hboost
          obtain ⟨results', hrun, -⟩ := hafter.run_eq hmode
          rw [hrun] at h
          obtain rfl : e' = e := Option.some.inj h
          exact .inr ⟨before, hafter⟩
    · rw [Rescorer.run_eq, hopened] at h
      simp only [runPhrase_of_lt r settings (Nat.lt_of_not_le hsize)] at h
      cases h

/-- A run that is cut short. What fails before the documents are visited leaves the results as they
were. What fails in the pairs of a document leaves the rows in document order: those before the
document have the scores that any rescorer gives them that answers where this one does, and the
others have their weighted scores. Every failure of a run is one of these. -/
theorem run_of_failure (hmode : settings.mode.pairing? = some pairing) (source : Source)
    (query : Query α) (results : ResultSet α) (s : Session σ α) (e : Failure) :
    (r.FailsEarly settings pairing source query s e →
      (r.run (.ok settings) source query results s).1 = (⟨.cutShort, 0, some e⟩, results)) ∧
    (∀ before, r.FailsAfter settings pairing source query results s e before →
      ∃ results', (r.run (.ok settings) source query results s).1 =
          (⟨.cutShort, Pass.entered before + 1, some e⟩, results') ∧
        results'.Rescores results ∧
        results'.rows.drop before.length = (results.sortByDocid.rows.drop before.length).map
          (fun row => { row with score := row.score * settings.baseWeight }) ∧
        ∀ r' : Rescorer σ α, r'.Extends r →
          (r'.run (.ok settings) source query results s).1.2.rows.take before.length =
            results'.rows.take before.length) ∧
    ((r.run (.ok settings) source query results s).1.1.failure = some e →
      r.FailsEarly settings pairing source query s e ∨
        ∃ before, r.FailsAfter settings pairing source query results s e before) :=
  ⟨fun h => h.run_eq hmode results, fun _ h => h.run_eq hmode, failsEarly_or_failsAfter hmode⟩

end Rescorer

def Source.twoWords : Source where
  find _ opening := .ok <|
    if opening = .term "a" then some ⟨some "a", #[⟨0, 2, [0]⟩, ⟨1, 2, [0]⟩], true⟩
    else if opening = .term "b" then some ⟨some "b", #[⟨0, 2, [1]⟩, ⟨1, 2, [1]⟩], true⟩
    else none
  statistics := ⟨2, 4⟩

def Rescorer.once : Rescorer Unit Float where
  function := ⟨"one", fun _ => pure (), fun _ _ => pure 1.0⟩
  counter := ⟨fun answered _ =>
    if answered.isEmpty then .ok 1 else .error (.reported "corrupt posting list")⟩

def ResultSet.twoRows : ResultSet Float where
  rows := [⟨1, 2.0, 1⟩, ⟨0, 2.0, 1⟩]
  nodup_docids := by decide

def Phrase.twoWords : Phrase Float where
  source := .twoWords
  terms := [⟨"a", 1.0, .term "a", 0⟩, ⟨"b", 1.0, .term "b", 1⟩]

def twoSlots (docid : Int) : List (Slot Float) :=
  [⟨0, 1.0, some ⟨docid, 2, .ok [0]⟩⟩, ⟨1, 1.0, some ⟨docid, 2, .ok [1]⟩⟩]

theorem exec_ofQuery_twoWords : ∃ s₁ : Session Unit Float,
    (Phrase.ofQuery .twoWords (Query.ofTokens none ["a", "b"] : Query Float).filtered true).exec
      (Rescorer.once.begun .neighbours (.start Float ())) = (.ok .twoWords, s₁) ∧
    s₁.answered = #[] ∧
    (Phrase.twoWords.streamsIn (Phrase.twoWords.announced s₁)).map Stream.step =
      [(Stream.ofList ⟨some "a", #[⟨0, 2, [0]⟩, ⟨1, 2, [0]⟩], true⟩).step,
        (Stream.ofList ⟨some "b", #[⟨0, 2, [1]⟩, ⟨1, 2, [1]⟩], true⟩).step] := by
  unfold Phrase.ofQuery
  rw [requests_ofTokens_two]
  exact ⟨_, rfl, rfl, rfl⟩

theorem plan_twoWords :
    (Rescorer.once.passOver .neighbours .adjacent .twoWords).plan (Pass.allZero .twoRows)
      ((Rescorer.once.passOver .neighbours .adjacent .twoWords).weighted .twoRows).rows
      [(Stream.ofList ⟨some "a", #[⟨0, 2, [0]⟩, ⟨1, 2, [0]⟩], true⟩).step,
        (Stream.ofList ⟨some "b", #[⟨0, 2, [1]⟩, ⟨1, 2, [1]⟩], true⟩).step] =
      [(⟨0, 2.0 * 1.0, 1⟩, some (twoSlots 0)), (⟨1, 2.0 * 1.0, 1⟩, some (twoSlots 1))] := by
  have hpruned : ¬ ((2.0 * 1.0 : Float) ≤ 0.0) := by decide +kernel
  have hweighted : ((Rescorer.once.passOver .neighbours .adjacent .twoWords).weighted
      .twoRows).rows = [⟨0, 2.0 * 1.0, 1⟩, ⟨1, 2.0 * 1.0, 1⟩] := by
    simp [Pass.weighted, ResultSet.mapScores, ResultSet.sortByDocid, ResultSet.reorder,
      List.mergeSort, List.MergeSort.Internal.splitInTwo, ResultSet.twoRows, Rescorer.passOver,
      Settings.neighbours, Settings.standard]
  rw [hweighted]
  simp [Pass.plan, Pass.meet, Pass.isPruned, hpruned, Stream.advance, Pass.slots,
    Rescorer.passOver, Stream.step, Stream.ofList, Stream.docid, Stream.size, Stream.sighting?,
    Stream.current?, endOfList, twoSlots, Phrase.twoWords, Stream.positions, Stream.require,
    Except.map]

theorem exec_twoSlots {s : Session Unit Float} (h : s.answered = #[]) :
    ∃ scored s₁ s₂,
      (([(⟨0, 2.0 * 1.0, 1⟩, some (twoSlots 0))] : List (Pass.Step Float)).mapM
        (Rescorer.once.passOver .neighbours .adjacent .twoWords).carryOut).exec s =
          (.ok scored, s₁) ∧
      ((Rescorer.once.passOver .neighbours .adjacent .twoWords).boost (twoSlots 1)).exec s₁ =
        (.error (.reported "corrupt posting list"), s₂) := by
  obtain ⟨scorer, opened, answered, events⟩ := s
  subst h
  exact ⟨_, _, _, rfl, rfl⟩

theorem failsAfter_once :
    Rescorer.once.FailsAfter .neighbours .adjacent .twoWords (Query.ofTokens none ["a", "b"])
      .twoRows (.start Float ()) (.reported "corrupt posting list")
      [(⟨0, 2.0 * 1.0, 1⟩, some (twoSlots 0))] := by
  obtain ⟨s₁, hopened, hanswered, hstreams⟩ := exec_ofQuery_twoWords
  have hsome : (Source.twoWords.statistics.averageWindows? 2 : Option Float).isSome = true := by
    decide +kernel
  obtain ⟨average, haverage⟩ := Option.isSome_iff_exists.1 hsome
  have hready : ((Rescorer.once.passOver .neighbours .adjacent .twoWords).ready .twoWords).exec
      (Phrase.twoWords.announced s₁) = (.ok _, Phrase.twoWords.announced s₁) :=
    Pass.ready_of_prepare_ok haverage rfl
  rw [hstreams] at hready
  have hanswered' : (Phrase.twoWords.announced s₁).answered = #[] := hanswered
  obtain ⟨scored, s₂, s₃, hdone, hfails⟩ := exec_twoSlots hanswered'
  exact .pair hopened (by decide) hready plan_twoWords hdone hfails

theorem run_of_failure_once :
    ∃ results', (Rescorer.once.run (.ok .neighbours) .twoWords (Query.ofTokens none ["a", "b"])
        .twoRows (.start Float ())).1 =
        (⟨.cutShort, 2, some (.reported "corrupt posting list")⟩, results') ∧
      results'.rows.drop 1 = [⟨1, 2.0 * 1.0, 1⟩] := by
  obtain ⟨results', hrun, -, hdrop, -⟩ := (Rescorer.run_of_failure rfl .twoWords
    (Query.ofTokens none ["a", "b"]) .twoRows (.start Float ()) _).2.1 _ failsAfter_once
  refine ⟨results', hrun, ?_⟩
  have hsorted : ResultSet.twoRows.sortByDocid.rows = [⟨0, 2.0, 1⟩, ⟨1, 2.0, 1⟩] := by
    simp [ResultSet.sortByDocid, ResultSet.reorder, List.mergeSort,
      List.MergeSort.Internal.splitInTwo, ResultSet.twoRows]
  rw [hsorted] at hdrop
  exact hdrop

end ProximityRanking
