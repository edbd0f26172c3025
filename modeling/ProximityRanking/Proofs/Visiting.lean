import Mathlib.Data.List.Basic
import ProximityRanking.Proofs.Rows
import ProximityRanking.Proofs.Sessions
import ProximityRanking.Rescorer
/-!
What a pass does, taken apart. Which documents get the scores of their pairs, and what is seen of
the terms in them, depends on the streams only: this is the plan of the pass. Carrying it out is all
that can fail, and a failure leaves the rest of the plan undone.
-/
set_option autoImplicit false

namespace ProximityRanking

variable {σ α : Type} [Scalar α]

namespace Pass

abbrev Step (α : Type) := Row α × Option (List (Slot α))

def meet (p : Pass σ α) (allZero : Bool) (row : Row α) (streams : List Stream) :
    List Stream × Option (List (Slot α)) :=
  if isPruned allZero row then (streams, none)
  else
    let streams := streams.map (Stream.advance row.docid)
    let slots := p.slots streams row.docid
    (streams, if slots.countP (·.sighting.isSome) < 2 then none else some slots)

/-- The steps of a pass over some rows. -/
def plan (p : Pass σ α) (allZero : Bool) : List (Row α) → List Stream → List (Step α)
  | [], _ => []
  | row :: rest, streams =>
    let (streams, slots) := p.meet allZero row streams
    (row, slots) :: p.plan allZero rest streams

def carryOut (p : Pass σ α) (step : Step α) : SessionM σ α (Row α) :=
  match step.2 with
  | none => pure step.1
  | some slots => do
    let x ← p.boost slots
    pure { step.1 with score := step.1.score + x }

theorem boost_of_carryOut_error {p : Pass σ α} {step : Step α} {s s' : Session σ α} {e : Failure}
    (h : (p.carryOut step).exec s = (.error e, s')) :
    ∃ slots, step.2 = some slots ∧ (p.boost slots).exec s = (.error e, s') := by
  obtain ⟨row, slots⟩ := step
  cases slots with
  | none => cases h
  | some slots =>
    unfold carryOut at h
    simp only [SessionM.exec_bind] at h
    rcases hboost : (p.boost slots).exec s with ⟨outcome, s₁⟩
    rw [hboost] at h
    cases outcome with
    | error e' =>
      obtain ⟨rfl, rfl⟩ : e' = e ∧ s₁ = s' := by simpa using h
      exact ⟨slots, rfl, hboost⟩
    | ok x => cases h

def entered (steps : List (Step α)) : Nat :=
  steps.countP (·.2.isSome)

theorem map_fst_plan (p : Pass σ α) (allZero : Bool) (rows : List (Row α))
    (streams : List Stream) : (p.plan allZero rows streams).map Prod.fst = rows := by
  induction rows generalizing streams with
  | nil => rfl
  | cons row rest ih =>
    simp only [plan, List.map_cons, ih]

theorem visit_cons (p : Pass σ α) (allZero : Bool) (row : Row α) (rest : List (Row α))
    (streams : List Stream) (s : Session σ α) :
    p.visit allZero (row :: rest) streams s =
      match p.meet allZero row streams with
      | (streams, none) =>
        ((p.visit allZero rest streams s).1.keep row, (p.visit allZero rest streams s).2)
      | (streams, some slots) =>
        match (p.boost slots).exec s with
        | (.error e, s') => (.stopped (row :: rest) streams 1 e, s')
        | (.ok x, s') =>
          ((p.visit allZero rest streams s').1.rescore row (row.score + x),
            (p.visit allZero rest streams s').2) := by
  rw [visit, meet]
  cases hpruned : isPruned allZero row with
  | true => rfl
  | false =>
    simp only [Bool.false_eq_true, if_false]
    by_cases hfew : (p.slots (streams.map (Stream.advance row.docid)) row.docid).countP
        (·.sighting.isSome) < 2
    · simp only [hfew, if_true]
      rfl
    · simp only [hfew, if_false, SessionM.exec, bind, StateT.bind, ExceptT.run]
      cases p.boost (p.slots (streams.map (Stream.advance row.docid)) row.docid) s with
      | mk outcome s' => cases outcome <;> rfl

theorem visit_cons_of_ok {p : Pass σ α} {allZero : Bool} {row row' : Row α} {rest : List (Row α)}
    {streams streams' : List Stream} {slots : Option (List (Slot α))} {s s₁ s' : Session σ α}
    {progress : Progress rest} (hmeet : p.meet allZero row streams = (streams', slots))
    (hrow : (p.carryOut (row, slots)).exec s = (.ok row', s₁))
    (hrest : p.visit allZero rest streams' s₁ = (progress, s')) :
    ∃ progress', p.visit allZero (row :: rest) streams s = (progress', s') ∧
      progress'.rescored = row' :: progress.rescored ∧
      progress'.altered = progress.altered + (if slots.isSome then 1 else 0) ∧
      progress'.failure = progress.failure := by
  rw [visit_cons, hmeet]
  cases slots with
  | none =>
    obtain ⟨hkeep, rfl⟩ := Prod.mk.inj hrow
    obtain rfl := Except.ok.inj hkeep
    simp only [hrest]
    exact ⟨_, rfl, rfl, rfl, rfl⟩
  | some slots =>
    obtain ⟨x, s₂, hboost, hscore⟩ := SessionM.exec_bind_eq_ok.1 hrow
    obtain ⟨hscored, rfl⟩ := Prod.mk.inj hscore
    obtain rfl := Except.ok.inj hscored
    simp only [hboost, hrest]
    exact ⟨_, rfl, rfl, rfl, rfl⟩

/-- Once the first steps are carried out the pass goes on with the others: there are rows and
streams for which these are the plan. -/
theorem visit_append {p : Pass σ α} {allZero : Bool} {rows scored : List (Row α)}
    {streams : List Stream} {before after : List (Step α)} {s s₁ : Session σ α}
    (hplan : p.plan allZero rows streams = before ++ after)
    (hbefore : (before.mapM p.carryOut).exec s = (.ok scored, s₁)) :
    ∃ rows' streams', p.plan allZero rows' streams' = after ∧
      ∃ progress, p.visit allZero rows streams s =
          (progress, (p.visit allZero rows' streams' s₁).2) ∧
        progress.rescored = scored ++ (p.visit allZero rows' streams' s₁).1.rescored ∧
        progress.altered = (p.visit allZero rows' streams' s₁).1.altered + entered before ∧
        progress.failure = (p.visit allZero rows' streams' s₁).1.failure := by
  -- Each step leaves other streams and another session for the rows that follow.
  induction before generalizing rows streams s scored with
  | nil =>
    rw [SessionM.exec_mapM_nil] at hbefore
    cases hbefore
    exact ⟨rows, streams, hplan, _, rfl, rfl, rfl, rfl⟩
  | cons step before ih =>
    cases rows with
    | nil => simp [plan] at hplan
    | cons row rest =>
      rcases hmeet : p.meet allZero row streams with ⟨streams₁, slots⟩
      simp only [plan, hmeet, List.cons_append, List.cons.injEq] at hplan
      obtain ⟨rfl, hplan⟩ := hplan
      obtain ⟨row', s₂, scored', hrow, hrest, rfl⟩ := SessionM.exec_mapM_cons_eq_ok.1 hbefore
      obtain ⟨rows', streams', hafter, progress, hvisit, hrescored, haltered, hfailure⟩ :=
        ih hplan hrest
      obtain ⟨progress', hvisit', hrescored', haltered', hfailure'⟩ :=
        visit_cons_of_ok hmeet hrow hvisit
      refine ⟨rows', streams', hafter, progress', hvisit', ?_, ?_, hfailure'.trans hfailure⟩
      · rw [hrescored', hrescored, List.cons_append]
      · rw [haltered', haltered, entered, entered, List.countP_cons]
        exact Nat.add_assoc _ _ _

theorem visit_of_ok {p : Pass σ α} {allZero : Bool} {rows rescored : List (Row α)}
    {streams : List Stream} {s s' : Session σ α}
    (h : ((p.plan allZero rows streams).mapM p.carryOut).exec s = (.ok rescored, s')) :
    ∃ progress, p.visit allZero rows streams s = (progress, s') ∧
      progress.rescored = rescored ∧
      progress.altered = entered (p.plan allZero rows streams) ∧ progress.failure = none := by
  obtain ⟨rows', streams', hafter, progress, hvisit, hrescored, haltered, hfailure⟩ :=
    visit_append (List.append_nil _).symm h
  cases rows' with
  | nil =>
    refine ⟨progress, hvisit, ?_, ?_, hfailure⟩
    · rw [hrescored]
      exact List.append_nil rescored
    · rw [haltered]
      exact Nat.zero_add _
  | cons row rest => simp [plan] at hafter

/-- A failure ends a pass at the row where it strikes. Rows before it are scored as planned, that
one and those behind it stay as they are. -/
theorem visit_of_error {p : Pass σ α} {allZero : Bool} {rows scored : List (Row α)}
    {streams : List Stream} {before after : List (Step α)} {row : Row α} {slots : List (Slot α)}
    {s s₁ s' : Session σ α} {e : Failure}
    (hplan : p.plan allZero rows streams = before ++ (row, some slots) :: after)
    (hbefore : (before.mapM p.carryOut).exec s = (.ok scored, s₁))
    (hfails : (p.boost slots).exec s₁ = (.error e, s')) :
    ∃ progress, p.visit allZero rows streams s = (progress, s') ∧
      progress.rescored = scored ++ row :: after.map Prod.fst ∧
      progress.altered = entered before + 1 ∧ progress.failure = some e := by
  obtain ⟨rows', streams', hafter, progress, hvisit, hrescored, haltered, hfailure⟩ :=
    visit_append hplan hbefore
  cases rows' with
  | nil => simp [plan] at hafter
  | cons row' rest =>
    have hrows := map_fst_plan p allZero (row' :: rest) streams'
    rcases hmeet : p.meet allZero row' streams' with ⟨streams₁, slots'⟩
    rw [hafter] at hrows
    simp only [plan, hmeet, List.cons.injEq, Prod.mk.injEq] at hafter
    obtain ⟨⟨rfl, rfl⟩, -⟩ := hafter
    rw [visit_cons, hmeet] at hvisit hrescored haltered hfailure
    simp only [hfails] at hvisit hrescored haltered hfailure
    refine ⟨progress, hvisit, ?_, ?_, hfailure⟩
    · rw [hrescored]
      exact congrArg (scored ++ ·) hrows.symm
    · rw [haltered]
      exact Nat.add_comm 1 _

theorem map_fixed_visit (p : Pass σ α) (allZero : Bool) (rows : List (Row α))
    (streams : List Stream) (s : Session σ α) :
    (p.visit allZero rows streams s).1.rescored.map Row.fixed = rows.map Row.fixed := by
  induction rows generalizing streams s with
  | nil => rfl
  | cons row rest ih =>
    rw [visit_cons]
    rcases p.meet allZero row streams with ⟨streams', slots⟩
    cases slots with
    | none => exact congrArg (row.fixed :: ·) (ih streams' s)
    | some slots =>
      rcases hboost : (p.boost slots).exec s with ⟨outcome, s'⟩
      cases outcome with
      | error e => simp only [hboost]; rfl
      | ok x =>
        simp only [hboost]
        exact congrArg (row.fixed :: ·) (ih streams' s')

def preparation (p : Pass σ α) (phrase : Phrase α) (average : α) : Preparation α where
  context := ⟨p.settings.window, average, phrase.source.statistics.tokens,
    phrase.source.statistics.documents⟩
  pairing := p.pairing
  collection := some (phrase, p.rescorer.counter)

theorem ready_of_none {p : Pass σ α} {phrase : Phrase α}
    (h : (phrase.source.statistics.averageWindows? p.settings.window : Option α) = none)
    (s : Session σ α) : (p.ready phrase).exec s = (.error .ratioTooLarge, s) := by
  unfold ready
  rw [SessionM.exec_bind_of_ok (SessionM.exec_get s)]
  simp only [h]
  rfl

theorem ready_of_prepare_error {p : Pass σ α} {phrase : Phrase α} {average : α}
    {s s' : Session σ α} {e : Failure}
    (h : phrase.source.statistics.averageWindows? p.settings.window = some average)
    (hprepare : (p.rescorer.function.prepare (p.preparation phrase average)).exec s =
      (.error e, s')) : (p.ready phrase).exec s = (.error e, s') := by
  unfold ready
  rw [SessionM.exec_bind_of_ok (SessionM.exec_get s)]
  simp only [h, SessionM.ofOption, pure_bind]
  exact SessionM.exec_bind_of_error hprepare _

theorem ready_of_prepare_ok {p : Pass σ α} {phrase : Phrase α} {average : α}
    {s s' : Session σ α}
    (h : phrase.source.statistics.averageWindows? p.settings.window = some average)
    (hprepare : (p.rescorer.function.prepare (p.preparation phrase average)).exec s =
      (.ok (), s')) :
    (p.ready phrase).exec s = (.ok ((phrase.streamsIn s).map Stream.step), s') := by
  unfold ready
  rw [SessionM.exec_bind_of_ok (SessionM.exec_get s)]
  simp only [h, SessionM.ofOption, pure_bind]
  exact SessionM.exec_bind_of_ok hprepare _

theorem exec_ready {p : Pass σ α} {phrase : Phrase α} {average : α}
    (h : phrase.source.statistics.averageWindows? p.settings.window = some average)
    (s : Session σ α) :
    (p.ready phrase).exec s =
      (((p.rescorer.function.prepare (p.preparation phrase average)).exec s).1.map fun _ =>
          (phrase.streamsIn s).map Stream.step,
        ((p.rescorer.function.prepare (p.preparation phrase average)).exec s).2) := by
  rcases hrun : (p.rescorer.function.prepare (p.preparation phrase average)).exec s with
    ⟨outcome, s₁⟩
  cases outcome with
  | error e => exact ready_of_prepare_error h hrun
  | ok done => exact ready_of_prepare_ok h hrun

theorem ready_eq_error {p : Pass σ α} {phrase : Phrase α} {s s' : Session σ α} {e : Failure}
    (h : (p.ready phrase).exec s = (.error e, s')) :
    ((phrase.source.statistics.averageWindows? p.settings.window : Option α) = none ∧
      e = .ratioTooLarge) ∨
    ∃ average, phrase.source.statistics.averageWindows? p.settings.window = some average ∧
      (p.rescorer.function.prepare (p.preparation phrase average)).exec s = (.error e, s') := by
  cases haverage : (phrase.source.statistics.averageWindows? p.settings.window : Option α) with
  | none =>
    rw [ready_of_none haverage] at h
    cases h
    exact .inl ⟨rfl, rfl⟩
  | some average =>
    refine .inr ⟨average, rfl, ?_⟩
    rcases hprepare : (p.rescorer.function.prepare (p.preparation phrase average)).exec s with
      ⟨outcome, s₁⟩
    cases outcome with
    | ok done =>
      rw [ready_of_prepare_ok haverage hprepare] at h
      cases h
    | error e' =>
      rw [ready_of_prepare_error haverage hprepare] at h
      obtain ⟨he, rfl⟩ := Prod.mk.inj h
      obtain rfl := Except.error.inj he
      rfl

theorem ready_eq_ok {p : Pass σ α} {phrase : Phrase α} {s s' : Session σ α}
    {streams : List Stream} (h : (p.ready phrase).exec s = (.ok streams, s')) :
    ∃ average, (p.rescorer.function.prepare (p.preparation phrase average)).exec s =
      (.ok (), s') := by
  cases haverage : (phrase.source.statistics.averageWindows? p.settings.window : Option α) with
  | none =>
    rw [ready_of_none haverage] at h
    cases h
  | some average =>
    refine ⟨average, ?_⟩
    rcases hprepare : (p.rescorer.function.prepare (p.preparation phrase average)).exec s with
      ⟨outcome, s₁⟩
    cases outcome with
    | error e =>
      rw [ready_of_prepare_error haverage hprepare] at h
      cases h
    | ok done =>
      rw [ready_of_prepare_ok haverage hprepare] at h
      obtain ⟨-, rfl⟩ := Prod.mk.inj h
      rfl

def allZero (results : ResultSet α) : Bool :=
  results.rows.all (·.score == 0.0)

theorem run_of_ready_error {p : Pass σ α} {phrase : Phrase α} {s s' : Session σ α} {e : Failure}
    (h : (p.ready phrase).exec s = (.error e, s')) (results : ResultSet α) :
    p.run phrase results s = ((.ended 0 (some e), results), s') := by
  have hready : p.ready phrase s = (.error e, s') := h
  simp only [run, bind, StateT.bind, ExceptT.run, hready]
  rfl

theorem run_of_ready_ok {p : Pass σ α} {phrase : Phrase α} {s s₁ s' : Session σ α}
    {streams : List Stream} {results : ResultSet α}
    {progress : Progress (p.weighted results).rows}
    (h : (p.ready phrase).exec s = (.ok streams, s₁))
    (hvisit : p.visit (allZero results) (p.weighted results).rows streams s₁ = (progress, s')) :
    ∃ results', p.run phrase results s =
        ((.ended progress.altered progress.failure, results'), s') ∧
      results'.rows = progress.rescored ∧ results'.Rescores results := by
  have hready : p.ready phrase s = (.ok streams, s₁) := h
  have hfixed := map_fixed_visit p (allZero results) (p.weighted results).rows streams s₁
  rw [hvisit] at hfixed
  unfold allZero at hvisit
  simp only [run, bind, StateT.bind, ExceptT.run, hready, hvisit]
  refine ⟨_, rfl, rfl, ResultSet.rescores_of_map_fixed ?_⟩
  rw [hfixed, weighted, ResultSet.mapScores, List.map_map]
  rfl

end Pass

def Phrase.announced (phrase : Phrase α) (s : Session σ α) : Session σ α :=
  phrase.terms.foldl (fun s t => s.report (.phraseTerm t.text)) s

omit [Scalar α] in
theorem Phrase.run_forM_report (terms : List (PhraseTerm α)) (s : Session σ α) :
    (terms.forM fun t => modify (·.report (.phraseTerm t.text)) : StateM (Session σ α) Unit) s =
      ((), terms.foldl (fun s t => s.report (.phraseTerm t.text)) s) := by
  induction terms generalizing s with
  | nil => rfl
  | cons t terms ih => exact ih _

namespace Rescorer

def begun (r : Rescorer σ α) (settings : Settings α) (s : Session σ α) : Session σ α :=
  if (WeightRule.ofId? settings.rule).isNone then
    (s.report (.started r.label settings.window)).report (.unknownRule settings.rule r.label)
  else s.report (.started r.label settings.window)

def passOver (r : Rescorer σ α) (settings : Settings α) (pairing : Pairing) (phrase : Phrase α) :
    Pass σ α :=
  ⟨r, settings, pairing, phrase.terms.map PhraseTerm.weight⟩

theorem runPhrase_of_lt (r : Rescorer σ α) (settings : Settings α) {phrase : Phrase α}
    (hsize : phrase.size < 2) (results : ResultSet α) (s : Session σ α) :
    r.runPhrase settings phrase results s = ((.skipped, results), s) := by
  unfold runPhrase
  simp only [hsize, if_true]
  rfl

theorem runPhrase_eq {r : Rescorer σ α} {settings : Settings α} {phrase : Phrase α}
    (hsize : 2 ≤ phrase.size) {pairing : Pairing} (hmode : settings.mode.pairing? = some pairing)
    (results : ResultSet α) (s : Session σ α) :
    r.runPhrase settings phrase results s =
      (r.passOver settings pairing phrase).run phrase results (phrase.announced s) := by
  have hsize' : ¬ phrase.size < 2 := by omega
  unfold runPhrase
  simp only [hsize', if_false, hmode, bind, StateT.bind, Phrase.run_forM_report]
  rfl

theorem runPhrase_of_unset {r : Rescorer σ α} {settings : Settings α} {phrase : Phrase α}
    (hsize : 2 ≤ phrase.size) (hmode : settings.mode.pairing? = none) (results : ResultSet α)
    (s : Session σ α) :
    r.runPhrase settings phrase results s =
      ((.skipped, results), (phrase.announced s).report .dependencyUnset) := by
  have hsize' : ¬ phrase.size < 2 := by omega
  unfold runPhrase
  simp only [hsize', if_false, hmode, bind, StateT.bind, Phrase.run_forM_report]
  rfl

theorem run_eq (r : Rescorer σ α) (settings : Settings α) (source : Source) (query : Query α)
    (results : ResultSet α) (s : Session σ α) :
    r.run (.ok settings) source query results s =
      match (Phrase.ofQuery source query.filtered settings.splitSynonyms).exec
        (r.begun settings s) with
      | (.error e, s₁) =>
        ((.ended 0 (some e), results), (r.reportEnd (.ended 0 (some e)) s₁).2)
      | (.ok phrase, s₁) =>
        match r.runPhrase settings phrase results s₁ with
        | ((outcome, results'), s₂) =>
          ((outcome, results'), (r.reportEnd outcome (phrase.closeIn s₂)).2) := by
  unfold run begun
  cases hrule : (WeightRule.ofId? settings.rule).isNone with
  | true =>
    simp only [hrule, if_true, bind, StateT.bind, ExceptT.run, SessionM.exec, run_modify]
    cases Phrase.ofQuery source query.filtered settings.splitSynonyms
      ((s.report (.started r.label settings.window)).report
        (.unknownRule settings.rule r.label)) with
    | mk outcome s₁ => cases outcome <;> rfl
  | false =>
    simp only [hrule, Bool.false_eq_true, if_false, bind, StateT.bind, ExceptT.run, SessionM.exec,
      run_modify]
    cases Phrase.ofQuery source query.filtered settings.splitSynonyms
      (s.report (.started r.label settings.window)) with
    | mk outcome s₁ => cases outcome <;> rfl

variable {r : Rescorer σ α} {settings : Settings α} {source : Source} {query : Query α}
  {phrase : Phrase α} {results : ResultSet α} {s s₁ s₂ s₃ : Session σ α}

theorem run_of_open_error {e : Failure}
    (h : (Phrase.ofQuery source query.filtered settings.splitSynonyms).exec (r.begun settings s) =
      (.error e, s₁)) :
    (r.run (.ok settings) source query results s).1 = (⟨.cutShort, 0, some e⟩, results) := by
  rw [run_eq, h]
  rfl

theorem run_of_open_ok {outcome : Outcome} {results' : ResultSet α} {pairing : Pairing}
    (hopen : (Phrase.ofQuery source query.filtered settings.splitSynonyms).exec
      (r.begun settings s) = (.ok phrase, s₁))
    (hsize : 2 ≤ phrase.size) (hmode : settings.mode.pairing? = some pairing)
    (hpass : (r.passOver settings pairing phrase).run phrase results (phrase.announced s₁) =
      ((outcome, results'), s₂)) :
    (r.run (.ok settings) source query results s).1 = (outcome, results') := by
  rw [run_eq, hopen]
  simp only [runPhrase_eq hsize hmode, hpass]

end Rescorer

def Settings.neighbours : Settings Float :=
  { Settings.standard with mode := .sequential }

end ProximityRanking
