import ProximityRanking.Proofs.History
import ProximityRanking.Proofs.Overlaps
import ProximityRanking.Proofs.Snapshots
/-!
What a scoring function is asked. A guard refuses numbers of matches that a document does not have;
put before a scoring function it changes no call, because the windows that the counter finds are
among those that the function itself makes out in the document.
-/
set_option autoImplicit false

namespace ProximityRanking

variable {σ α : Type}

/-- A function that fails when it is asked for a score that is not allowed in its state. -/
def ScoringFunction.guarded (f : ScoringFunction σ α) (allowed : σ → Int → Int → Bool)
    (e : Failure) : ScoringFunction σ α :=
  { f with
    score := fun matching length scorer =>
      if allowed scorer matching length then f.score matching length scorer
      else (.error e, scorer) }

/-- A prepared function stays in states in which it may be asked about all numbers of matches up to
the number of windows. -/
structure ScoringFunction.Admits (f : ScoringFunction σ α) (allowed : σ → Int → Int → Bool)
    (Ready : Int → σ → Prop) : Prop where
  prepare : ∀ preparation (s s' : Session σ α),
    (f.prepare preparation).exec s = (.ok (), s') → Ready preparation.context.window s'.scorer
  score : ∀ window matching length scorer, Ready window scorer →
    Ready window (f.score matching length scorer).2
  allowed : ∀ window matching length scorer, Ready window scorer →
    matching ∈ Set.Icc 0 (windowCount window length) → allowed scorer matching length = true

def Session.SameReady (Ready : Int → σ → Prop) (window : Int) (s s' : Session σ α) : Prop :=
  s = s' ∧ Ready window s.scorer

theorem Session.agree_self {β : Type} {Ready : Int → σ → Prop} {window : Int} {m : SessionM σ α β}
    (h : ∀ s x s', m.exec s = (.ok x, s') → Ready window s'.scorer) :
    SessionM.Agree Eq Eq m m (SessionM.Same (Session.SameReady Ready window)) := by
  rintro s _ rfl
  rcases hrun : m.exec s with ⟨outcome, s'⟩
  cases outcome with
  | error e => exact .error rfl
  | ok x => exact .ok ⟨rfl, rfl, h s x s' hrun⟩

namespace ScoringFunction.Admits

variable {f : ScoringFunction σ α} {allowed : σ → Int → Int → Bool} {Ready : Int → σ → Prop}
  (hf : f.Admits allowed Ready) (e : Failure)

theorem agree_count [Table.Memory] [Table.Bounded] (request : CountRequest) :
    SessionM.Agree Eq (Session.SameReady Ready request.window)
      (SessionM.count .windows request : SessionM σ α Int) (SessionM.count .windows request)
      fun n n' s s' => (n = n' ∧ n ∈ Set.Icc 0 (windowCount request.window request.length)) ∧
        Session.SameReady Ready request.window s s' := by
  intro s s' hs
  obtain ⟨rfl, hready⟩ := hs
  rw [SessionM.exec_count]
  cases hcount : PairCounter.windows.count s.answered request with
  | error e => exact .error rfl
  | ok n => exact .ok ⟨⟨rfl, Window.count_mem_Icc hcount⟩, rfl, hready⟩

include hf

theorem agree_prepare (preparation : Preparation α) :
    SessionM.Agree Eq Eq ((f.guarded allowed e).prepare preparation) (f.prepare preparation)
      (SessionM.Same (Session.SameReady Ready preparation.context.window)) :=
  Session.agree_self fun s _ s' hprepare => hf.prepare preparation s s' hprepare

theorem agree_score {window matching length : Int}
    (hmatching : matching ∈ Set.Icc 0 (windowCount window length)) :
    SessionM.Agree Eq (Session.SameReady Ready window)
      (SessionM.onScorer ((f.guarded allowed e).score matching length) : SessionM σ α α)
      (SessionM.onScorer (f.score matching length))
      (SessionM.Same (Session.SameReady Ready window)) := by
  intro s s' hs
  obtain ⟨rfl, hready⟩ := hs
  have hallowed := hf.allowed window matching length s.scorer hready hmatching
  have hguard : (f.guarded allowed e).score matching length s.scorer =
      f.score matching length s.scorer := if_pos hallowed
  have hafter := hf.score window matching length s.scorer hready
  simp only [SessionM.exec, SessionM.onScorer, hguard]
  rcases hscore : f.score matching length s.scorer with ⟨outcome, scorer⟩
  rw [hscore] at hafter
  cases outcome with
  | error e => exact .error rfl
  | ok x => exact .ok ⟨rfl, rfl, hafter⟩

variable [Table.Memory] [Table.Bounded] [Scalar α]

theorem agree_scorePair (pairing : Pairing) (window : Int) (i : Nat) (a : Sighting) (j : Nat)
    (b : Sighting) :
    SessionM.Agree Eq (Session.SameReady Ready window)
      ((Rescorer.mk (f.guarded allowed e) .windows).scorePair pairing window i a j b)
      ((Rescorer.mk f .windows).scorePair pairing window i a j b)
      (SessionM.Same (Session.SameReady Ready window)) := by
  unfold Rescorer.scorePair
  refine .bind_same (.ofExcept (fun _ => rfl) _) fun first => ?_
  refine .bind_same (.ofExcept (fun _ => rfl) _) fun second => ?_
  refine .bind (agree_count ⟨pairing, first, second, window, a.length⟩) fun n n' => .of_and ?_
  rintro ⟨rfl, hn⟩
  refine .bind_same (hf.agree_score e hn) fun score => ?_
  split
  · refine .bind_same (.update fun s s' hs => ?_) fun _ => .pure fun _ _ hs => ⟨rfl, hs⟩
    obtain ⟨rfl, hready⟩ := hs
    exact ⟨rfl, hready⟩
  · exact .pure fun _ _ hs => ⟨rfl, hs⟩

theorem agree_sumNeighbours (window : Int) (pairs : List ((Posting × Nat) × (Posting × Nat)))
    (total : α) :
    SessionM.Agree Eq (Session.SameReady Ready window)
      ((Rescorer.mk (f.guarded allowed e) .windows).sumNeighbours window pairs total)
      ((Rescorer.mk f .windows).sumNeighbours window pairs total)
      (SessionM.Same (Session.SameReady Ready window)) := by
  induction pairs generalizing total with
  | nil => exact .pure fun _ _ hs => ⟨rfl, hs⟩
  | cons pair rest ih =>
    obtain ⟨⟨a, i⟩, b, j⟩ := pair
    exact .bind_same (hf.agree_scorePair e _ _ _ _ _ _) fun score => ih _

variable {settings : Settings α}

theorem agree_addPairs (pairing : Pairing) (phrase : Phrase α) (pairs : List (Slot α × Slot α))
    (total : α) :
    SessionM.Agree Eq (Session.SameReady Ready settings.window)
      (((Rescorer.mk (f.guarded allowed e) .windows).passOver settings pairing phrase).addPairs
        pairs total)
      (((Rescorer.mk f .windows).passOver settings pairing phrase).addPairs pairs total)
      (SessionM.Same (Session.SameReady Ready settings.window)) := by
  induction pairs generalizing total with
  | nil => exact .pure fun _ _ hs => ⟨rfl, hs⟩
  | cons pair rest ih =>
    obtain ⟨x, y⟩ := pair
    rw [Pass.addPairs.eq_def, Pass.addPairs.eq_def]
    simp only
    split
    · exact .bind_same (hf.agree_scorePair e _ _ _ _ _ _) fun score => ih _
    · exact ih total

omit [Table.Bounded] in
theorem agree_ready (pairing : Pairing) (phrase : Phrase α) :
    SessionM.Agree Eq Eq
      (((Rescorer.mk (f.guarded allowed e) .windows).passOver settings pairing phrase).ready phrase)
      (((Rescorer.mk f .windows).passOver settings pairing phrase).ready phrase)
      (SessionM.Same (Session.SameReady Ready settings.window)) := by
  refine Session.agree_self fun s streams s' hready => ?_
  obtain ⟨average, hprepare⟩ := Pass.ready_eq_ok hready
  exact hf.prepare _ s s' hprepare

theorem run_pass (pairing : Pairing) (phrase : Phrase α) (results : ResultSet α)
    (s : Session σ α) :
    (((Rescorer.mk (f.guarded allowed e) .windows).passOver settings pairing phrase).run phrase
        results s).1 =
      (((Rescorer.mk f .windows).passOver settings pairing phrase).run phrase results s).1 := by
  refine EndedAlike.eq (Pass.run_agree (P := Eq) (R := Session.SameReady Ready settings.window)
    ?settings (fun s₁ s₁' hs₁ => ?ready) ?session)
  case settings => rfl
  case session => rfl
  case ready =>
    refine (hf.agree_ready e pairing phrase s₁ s₁' hs₁).imp fun streams streams' s₂ s₂' hsame => ?_
    obtain ⟨rfl, hs₂⟩ := hsame
    have hplans : ∀ step : Pass.Step α, Pass.StepsAgree Eq (Session.SameReady Ready settings.window)
        ((Rescorer.mk (f.guarded allowed e) .windows).passOver settings pairing phrase)
        ((Rescorer.mk f .windows).passOver settings pairing phrase) step step := by
      rintro ⟨row, slots⟩
      cases slots with
      | none => exact .kept row
      | some slots => exact .scored row (hf.agree_addPairs e pairing phrase _ _)
    refine ⟨?_, hs₂⟩
    rw [Rescorer.Extends.plan_eq ⟨f, .windows⟩ ⟨f.guarded allowed e, .windows⟩]
    exact List.forall₂_same.2 fun step _ => hplans step

theorem run_guarded (source : Source) (query : Query α) (results : ResultSet α)
    (s : Session σ α) :
    ((Rescorer.mk (f.guarded allowed e) .windows).run (.ok settings) source query results s).1 =
      ((Rescorer.mk f .windows).run (.ok settings) source query results s).1 := by
  rw [Rescorer.run_eq, Rescorer.run_eq]
  have hbegun : (Rescorer.mk (f.guarded allowed e) .windows).begun settings s =
      (Rescorer.mk f .windows).begun settings s := rfl
  rw [hbegun]
  rcases (Phrase.ofQuery source query.filtered settings.splitSynonyms).exec
    ((Rescorer.mk f .windows).begun settings s) with ⟨outcome, s₁⟩
  cases outcome with
  | error e => rfl
  | ok phrase =>
    by_cases hsize : phrase.size < 2
    · simp only [Rescorer.runPhrase_of_lt _ settings hsize]
    · have hsize : 2 ≤ phrase.size := by omega
      cases hmode : settings.mode.pairing? with
      | none => simp only [Rescorer.runPhrase_of_unset hsize hmode]
      | some pairing =>
        simp only [Rescorer.runPhrase_eq hsize hmode]
        exact hf.run_pass e pairing phrase results _

theorem scoreDocument_guarded (reading : Except Settings.Fault (Settings α))
    (postings : List Posting) (s : Session σ α) :
    (((Rescorer.mk (f.guarded allowed e) .windows).scoreDocument reading postings).exec s).1 =
      (((Rescorer.mk f .windows).scoreDocument reading postings).exec s).1 := by
  have hagree : SessionM.Agree Eq Eq
      ((Rescorer.mk (f.guarded allowed e) .windows).scoreDocument reading postings)
      ((Rescorer.mk f .windows).scoreDocument reading postings) fun x y _ _ => x = y := by
    refine .bind_same (.ofExcept (fun _ => rfl) _) fun settings => ?_
    refine .bind_same (hf.agree_prepare e _) fun _ => ?_
    exact .bind_same (hf.agree_sumNeighbours e _ _ _) fun total => .pure fun _ _ _ => rfl
  have hends := hagree s s rfl
  rcases hrun : ((Rescorer.mk (f.guarded allowed e) .windows).scoreDocument reading
    postings).exec s with ⟨outcome, s₁⟩
  rcases hrun' : ((Rescorer.mk f .windows).scoreDocument reading postings).exec s with
    ⟨outcome', s₁'⟩
  rw [hrun, hrun'] at hends
  cases hends with
  | ok hsame => exact congrArg Except.ok hsame
  | error he => exact congrArg Except.error he

theorem call_guarded (call : Call α) (s : Session σ α) :
    ((Rescorer.mk (f.guarded allowed e) .windows).call call s).1 =
      ((Rescorer.mk f .windows).call call s).1 := by
  cases call with
  | rescore reading source query results =>
    cases reading with
    | error fault => rfl
    | ok settings =>
      exact congrArg (fun e => Answer.rescored e.1 e.2) (hf.run_guarded e source query results s)
  | scoreDocument reading postings =>
    exact congrArg Answer.scored (hf.scoreDocument_guarded e reading postings s)

end ScoringFunction.Admits

/-- A state admits questions about as many matches as its context makes out windows. -/
def Binding.allows (b : Binding α) (matching length : Int) : Bool :=
  match b.context with
  | some c => decide (0 ≤ matching ∧ matching ≤ windowCount c.window length)
  | none => false

theorem Binding.allows_eq_true {b : Binding α} {matching length : Int}
    (h : b.allows matching length = true) :
    ∃ c, b.context = some c ∧ 0 ≤ matching ∧ matching ≤ windowCount c.window length := by
  unfold allows at h
  cases hcontext : b.context with
  | none => simp [hcontext] at h
  | some c => exact ⟨c, rfl, by simpa [hcontext] using h⟩

theorem ScoringFunction.admits_ofScore [Scalar α] (name : String)
    (score : Binding α → Int → Int → Except Failure α) :
    (ofScore name score).Admits Binding.allows Binding.HasWindow where
  prepare preparation s s' h := by
    cases h
    exact ⟨preparation.context, rfl, rfl⟩
  score _ _ _ _ hready := hready
  allowed window matching length b hready hmatching := by
    obtain ⟨context, hcontext, rfl⟩ := hready
    simpa [Binding.allows, hcontext] using hmatching

end ProximityRanking
