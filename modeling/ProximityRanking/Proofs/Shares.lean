import ProximityRanking.Proofs.Agreement
import ProximityRanking.Proofs.CollectionFrequency
/-!
Scores that never fail. If the counter has one answer for each request and the scoring function one
score for each of its states, which it stays in, then what the pairs of a document add up to is a
sum of shares, and a run leaves the scoring function as its preparation did.
-/
set_option autoImplicit false

namespace ProximityRanking

variable {σ α : Type}

/-- A rescorer with one answer for each request, whose scoring function never fails to score and is
left as it was. -/
structure Rescorer.Scores (r : Rescorer σ α) (answer : CountRequest → Except Failure Int)
    (score : σ → Int → Int → α) : Prop where
  counter : r.counter.Answers answer
  score : ∀ matching length state,
    r.function.score matching length state = (.ok (score state matching length), state)

def pairShare [Scalar α] (settings : Settings α) (pairing : Pairing)
    (answer : CountRequest → Except Failure Int) (score : Int → Int → α)
    (pair : (α × Posting) × (α × Posting)) : Except Failure α :=
  (answer (requestFor pairing settings.window (pair.1.2, pair.2.2))).map fun matching =>
    score matching pair.1.2.length * WeightRule.combine settings.rule pair.1.1 pair.2.1 *
      settings.pairWeight pairing

def Occurrence.weighed (a : Occurrence α) : α × Posting :=
  (a.weight, a.posting)

namespace Rescorer.Scores

variable [Scalar α] {r : Rescorer σ α} {answer : CountRequest → Except Failure Int}
  {score : σ → Int → Int → α}

theorem exec_scorePair (h : r.Scores answer score) (pairing : Pairing) (window : Int) (i j : Nat)
    (a b : Sighting) (s : Session σ α) :
    ∃ s', (r.scorePair pairing window i a j b).exec s =
        (a.positions.bind fun first => b.positions.bind fun second =>
          (answer ⟨pairing, first, second, window, a.length⟩).map fun matching =>
            score s.scorer matching a.length, s') ∧
      s'.scorer = s.scorer := by
  unfold scorePair
  rw [SessionM.exec_bind, SessionM.exec_ofExcept]
  cases a.positions with
  | error e => exact ⟨s, rfl, rfl⟩
  | ok first =>
    simp only [SessionM.exec_bind, SessionM.exec_ofExcept]
    cases b.positions with
    | error e => exact ⟨s, rfl, rfl⟩
    | ok second =>
      have hcount := h.counter s.answered ⟨pairing, first, second, window, a.length⟩
      simp only [SessionM.exec_count, hcount, Except.bind]
      cases answer ⟨pairing, first, second, window, a.length⟩ with
      | error e => exact ⟨s, rfl, rfl⟩
      | ok matching =>
        simp only [SessionM.exec, SessionM.onScorer, h.score]
        split <;> exact ⟨_, rfl, rfl⟩

theorem exec_scorePair_ofPosting (h : r.Scores answer score) (pairing : Pairing) (window : Int)
    (i j : Nat) (p q : Posting) (s : Session σ α) :
    ∃ s', (r.scorePair pairing window i (.ofPosting p) j (.ofPosting q)).exec s =
        ((answer (requestFor pairing window (p, q))).map fun matching =>
          score s.scorer matching p.length, s') ∧
      s'.scorer = s.scorer :=
  h.exec_scorePair pairing window i j (.ofPosting p) (.ofPosting q) s

theorem exec_sumPairs (h : r.Scores answer score) (settings : Settings α) (pairing : Pairing)
    (pairs : List (Occurrence α × Occurrence α)) (total : α) (s : Session σ α) :
    ∃ s', (r.sumPairs settings pairing pairs total).exec s =
        ((pairs.mapM fun pair => pairShare settings pairing answer (score s.scorer)
          (pair.1.weighed, pair.2.weighed)).map (·.foldl (· + ·) total), s') ∧
      s'.scorer = s.scorer := by
  induction pairs generalizing total s with
  | nil => exact ⟨s, rfl, rfl⟩
  | cons pair rest ih =>
    obtain ⟨a, b⟩ := pair
    obtain ⟨s₁, hpair, hscorer⟩ := h.exec_scorePair_ofPosting pairing settings.window a.place
      b.place a.posting b.posting s
    have hshare : pairShare settings pairing answer (score s.scorer) (a.weighed, b.weighed) =
        (answer (requestFor pairing settings.window (a.posting, b.posting))).map fun matching =>
          score s.scorer matching a.posting.length *
            WeightRule.combine settings.rule a.weight b.weight * settings.pairWeight pairing := rfl
    rw [sumPairs, List.foldlM_cons, List.mapM_cons, bind_assoc, hshare]
    cases hanswer : answer (requestFor pairing settings.window (a.posting, b.posting)) with
    | error e =>
      rw [hanswer] at hpair
      exact ⟨s₁, SessionM.exec_bind_of_error hpair _, hscorer⟩
    | ok matching =>
      rw [hanswer] at hpair
      obtain ⟨s₂, hrest, hscorer₂⟩ := ih _ s₁
      rw [SessionM.exec_bind_of_ok hpair]
      refine ⟨s₂, hrest.trans ?_, hscorer₂.trans hscorer⟩
      rw [hscorer]
      cases rest.mapM fun pair => pairShare settings pairing answer (score s.scorer)
        (pair.1.weighed, pair.2.weighed) <;> rfl

theorem scorer_scorePair (h : r.Scores answer score) (pairing : Pairing) (window : Int) (i j : Nat)
    (a b : Sighting) (s : Session σ α) :
    ((r.scorePair pairing window i a j b).exec s).2.scorer = s.scorer := by
  obtain ⟨s', hrun, hscorer⟩ := h.exec_scorePair pairing window i j a b s
  rw [hrun]
  exact hscorer

theorem scorer_addPairs {p : Pass σ α} (h : p.rescorer.Scores answer score)
    (pairs : List (Slot α × Slot α)) (total : α) (s : Session σ α) :
    ((p.addPairs pairs total).exec s).2.scorer = s.scorer := by
  induction pairs generalizing total s with
  | nil => rfl
  | cons pair rest ih =>
    obtain ⟨x, y⟩ := pair
    rw [Pass.addPairs.eq_def]
    simp only
    split
    · rename_i a b _ _
      have hscorer := h.scorer_scorePair p.pairing p.settings.window x.place y.place a b s
      rcases hrun : (p.rescorer.scorePair p.pairing p.settings.window x.place a y.place b).exec s
        with ⟨outcome, s₁⟩
      rw [hrun] at hscorer
      cases outcome with
      | error e =>
        rw [SessionM.exec_bind_of_error hrun]
        exact hscorer
      | ok score =>
        rw [SessionM.exec_bind_of_ok hrun]
        exact (ih _ s₁).trans hscorer
    · exact ih total s

theorem scorer_visit {p : Pass σ α} (h : p.rescorer.Scores answer score) (allZero : Bool)
    (rows : List (Row α)) (streams : List Stream) (s : Session σ α) :
    (p.visit allZero rows streams s).2.scorer = s.scorer := by
  induction rows generalizing streams s with
  | nil => rfl
  | cons row rest ih =>
    rw [Pass.visit_cons]
    rcases p.meet allZero row streams with ⟨streams', slots⟩
    cases slots with
    | none => exact ih streams' s
    | some slots =>
      have hboost : ((p.boost slots).exec s).2.scorer = s.scorer := h.scorer_addPairs _ 0.0 s
      rcases hrun : (p.boost slots).exec s with ⟨outcome, s'⟩
      rw [hrun] at hboost
      cases outcome with
      | error e => simpa only [hrun] using hboost
      | ok x => simpa only [hrun] using (ih streams' s').trans hboost

theorem scorer_pass {p : Pass σ α} (h : p.rescorer.Scores answer score) (phrase : Phrase α)
    (results : ResultSet α) (s : Session σ α) :
    (p.run phrase results s).2.scorer = ((p.ready phrase).exec s).2.scorer := by
  rcases hready : (p.ready phrase).exec s with ⟨outcome, s₁⟩
  cases outcome with
  | error e => rw [Pass.run_of_ready_error hready]
  | ok streams =>
    obtain ⟨results', hrun, -⟩ := Pass.run_of_ready_ok hready (Prod.eta _).symm
    rw [hrun]
    exact h.scorer_visit _ _ streams s₁

end Rescorer.Scores

theorem Phrase.scorer_closeIn (phrase : Phrase α) (s : Session σ α) :
    (phrase.closeIn s).scorer = s.scorer := by
  unfold closeIn
  induction phrase.terms generalizing s with
  | nil => rfl
  | cons t terms ih => exact ih _

namespace Rescorer

theorem scorer_reportEnd (r : Rescorer σ α) (o : Outcome) (s : Session σ α) :
    (r.reportEnd o s).2.scorer = s.scorer := by
  obtain ⟨status, altered, failure⟩ := o
  cases status <;> cases failure <;> rfl

variable [Scalar α] {r : Rescorer σ α} {answer : CountRequest → Except Failure Int}
  {score : σ → Int → Int → α} {settings : Settings α} {source : Source} {query : Query α}
  {phrase : Phrase α} {s s₁ : Session σ α}
  (hopen : (Phrase.ofQuery source query.filtered settings.splitSynonyms).exec
    (r.begun settings s) = (.ok phrase, s₁))

include hopen

theorem scorer_run_eq (results : ResultSet α) :
    (r.run (.ok settings) source query results s).2.scorer =
      (r.runPhrase settings phrase results s₁).2.scorer := by
  rw [run_eq, hopen]
  rcases hrun : r.runPhrase settings phrase results s₁ with ⟨⟨outcome, results'⟩, s₂⟩
  simp only [hrun]
  exact (r.scorer_reportEnd outcome _).trans (phrase.scorer_closeIn s₂)

theorem scorer_run_of_lt (hsize : phrase.size < 2) (results : ResultSet α) :
    (r.run (.ok settings) source query results s).2.scorer = s₁.scorer := by
  rw [scorer_run_eq hopen, runPhrase_of_lt r settings hsize]

theorem Scores.scorer_run (h : r.Scores answer score) (hsize : 2 ≤ phrase.size)
    {pairing : Pairing} (hmode : settings.mode.pairing? = some pairing) (results : ResultSet α) :
    (r.run (.ok settings) source query results s).2.scorer =
      (((r.passOver settings pairing phrase).ready phrase).exec
        (phrase.announced s₁)).2.scorer := by
  rw [scorer_run_eq hopen, runPhrase_eq hsize hmode]
  exact scorer_pass (p := r.passOver settings pairing phrase) h phrase results _

end Rescorer

end ProximityRanking
