import ProximityRanking.Proofs.Agreement
import ProximityRanking.Proofs.LookUp
import ProximityRanking.Proofs.Reopening
import ProximityRanking.Scoring.Binomial
import ProximityRanking.Scoring
/-!
Calls with a history. A rescorer that was called before answers the next call as a new one does: a
preparation binds the scoring function anew before it is asked for any score. The streams that were
handed out before stand at other places, which matters only to a source that looks at them; two
sessions are parallel when they opened the same streams since the call began.
-/
set_option autoImplicit false

namespace ProximityRanking

variable {σ α : Type}

/-- A source that opens the same on top of two arrays of streams, whatever else is opened. -/
def Source.ReadsAlike (source : Source) (base base' : Array Stream) : Prop :=
  ∀ later opening, source.find (base ++ later) opening = source.find (base' ++ later) opening

def SamePlace (base base' : Array Stream) (place place' : Nat) : Prop :=
  ∃ k, place = base.size + k ∧ place' = base'.size + k

/-- Two sessions that opened the same streams on top of what each of them had, with scoring
functions in related states. -/
structure Session.Parallel (base base' : Array Stream) (C : σ → σ → Prop) (s s' : Session σ α) :
    Prop where
  opened : ∃ later, s.opened = base ++ later ∧ s'.opened = base' ++ later
  scorer : C s.scorer s'.scorer

variable {base base' : Array Stream} {C : σ → σ → Prop}

namespace Session.Parallel

variable {s s' : Session σ α}

theorem start (h : C s.scorer s'.scorer) : s.Parallel s.opened s'.opened C s' :=
  ⟨⟨#[], by simp⟩, h⟩

theorem report (h : s.Parallel base base' C s') (e e' : Event α) :
    (s.report e).Parallel base base' C (s'.report e') :=
  ⟨h.opened, h.scorer⟩

theorem samePlace (h : s.Parallel base base' C s') :
    SamePlace base base' s.opened.size s'.opened.size := by
  obtain ⟨later, hs, hs'⟩ := h.opened
  exact ⟨later.size, by simp [hs], by simp [hs']⟩

theorem handOut (h : s.Parallel base base' C s') (list : PostingList) :
    (s.handOut list).Parallel base base' C (s'.handOut list) := by
  obtain ⟨later, hs, hs'⟩ := h.opened
  refine ⟨⟨later.push (.ofList list), ?_, ?_⟩, h.scorer⟩
  · simp [Session.handOut, hs]
  · simp [Session.handOut, hs']

theorem modify_append (base later : Array Stream) (k : Nat) :
    (base ++ later).modify (base.size + k) Stream.close = base ++ later.modify k Stream.close := by
  refine Array.ext_getElem? fun i => ?_
  simp only [Array.getElem?_modify, Array.getElem?_append]
  by_cases hi : i < base.size
  · have hne : ¬ base.size + k = i := by omega
    simp [hi, hne]
  · have hiff : base.size + k = i ↔ k = i - base.size := by omega
    simp [hi, hiff]

theorem closeStream (h : s.Parallel base base' C s') {place place' : Nat}
    (hplace : SamePlace base base' place place') :
    (s.closeStream place).Parallel base base' C (s'.closeStream place') := by
  obtain ⟨later, hs, hs'⟩ := h.opened
  obtain ⟨k, rfl, rfl⟩ := hplace
  refine ⟨⟨later.modify k Stream.close, ?_, ?_⟩, h.scorer⟩
  · rw [Session.closeStream, hs, modify_append]
  · rw [Session.closeStream, hs', modify_append]

theorem stream_eq (h : s.Parallel base base' C s') {place place' : Nat}
    (hplace : SamePlace base base' place place') : s.stream place = s'.stream place' := by
  obtain ⟨later, hs, hs'⟩ := h.opened
  obtain ⟨k, rfl, rfl⟩ := hplace
  simp [Session.stream, hs, hs', Array.getD_eq_getD_getElem?, Array.getElem?_append_right]

end Session.Parallel

structure PhraseTerm.Parallel (base base' : Array Stream) (t t' : PhraseTerm α) : Prop where
  text : t.text = t'.text
  weight : t.weight = t'.weight
  opening : t.opening = t'.opening
  stream : SamePlace base base' t.stream t'.stream

structure Phrase.Parallel (base base' : Array Stream) (p p' : Phrase α) : Prop where
  source : p.source = p'.source
  terms : List.Forall₂ (PhraseTerm.Parallel base base') p.terms p'.terms

namespace Phrase.Parallel

variable {p p' : Phrase α} {s s' : Session σ α}

theorem contains_eq (h : p.Parallel base base' p') (text : String) :
    p.contains text = p'.contains text := by
  have hterms := h.terms
  unfold contains
  generalize p.terms = terms at hterms ⊢
  generalize p'.terms = terms' at hterms ⊢
  induction hterms with
  | nil => rfl
  | cons ht _ ih => rw [List.any_cons, List.any_cons, ih, ht.text]

theorem size_eq (h : p.Parallel base base' p') : p.size = p'.size :=
  h.terms.length_eq

theorem weights_eq (h : p.Parallel base base' p') :
    p.terms.map PhraseTerm.weight = p'.terms.map PhraseTerm.weight :=
  map_eq_map_of_forall₂ h.terms fun _ _ ht => ht.weight

theorem streamsIn_eq (h : p.Parallel base base' p') (hs : s.Parallel base base' C s') :
    p.streamsIn s = p'.streamsIn s' :=
  map_eq_map_of_forall₂ h.terms fun _ _ ht => hs.stream_eq ht.stream

theorem push (h : p.Parallel base base' p') {t t' : PhraseTerm α} (ht : t.Parallel base base' t') :
    (p.push t).Parallel base base' (p'.push t') :=
  ⟨h.source, List.rel_append h.terms (.cons ht .nil)⟩

theorem addWeight [Scalar α] (h : p.Parallel base base' p') (text : String) (weight : α) :
    (p.addWeight text weight).Parallel base base' (p'.addWeight text weight) := by
  refine ⟨h.source, ?_⟩
  simp only [Phrase.addWeight, List.forall₂_map_left_iff, List.forall₂_map_right_iff]
  refine h.terms.imp fun t t' ht => ?_
  rw [ht.text]
  split
  · exact ⟨rfl, congrArg (· + weight) ht.weight, ht.opening, ht.stream⟩
  · exact ht

def Opened (base base' : Array Stream) (C : σ → σ → Prop) (p p' : Phrase α)
    (s s' : Session σ α) : Prop :=
  p.Parallel base base' p' ∧ p.source.ReadsAlike base base' ∧ s.Parallel base base' C s'

theorem find_eq (h : p.Parallel base base' p') (hsource : p.source.ReadsAlike base base')
    (hs : s.Parallel base base' C s') (opening : Opening) :
    p.source.find s.opened opening = p'.source.find s'.opened opening := by
  obtain ⟨later, hopened, hopened'⟩ := hs.opened
  rw [hopened, hopened', ← h.source]
  exact hsource later opening

theorem carryOut [Scalar α] (h : p.Parallel base base' p')
    (hsource : p.source.ReadsAlike base base') (hs : s.Parallel base base' C s')
    (r : OpeningRequest α) :
    EndsAlike Eq (Opened base base' C) ((p.carryOut r).exec s) ((p'.carryOut r).exec s') := by
  rw [exec_carryOut, exec_carryOut, ← h.find_eq hsource hs, ← h.contains_eq]
  cases p.source.find s.opened r.opening with
  | error e => exact .error rfl
  | ok found =>
    cases found with
    | none => exact .ok ⟨h, hsource, hs.report _ _⟩
    | some list =>
      cases p.contains r.text with
      | true => exact .ok ⟨h.addWeight _ _, hsource, (hs.handOut list).closeStream hs.samePlace⟩
      | false => exact .ok ⟨h.push ⟨rfl, rfl, rfl, hs.samePlace⟩, hsource, hs.handOut list⟩

theorem carryOutAll [Scalar α] (h : p.Parallel base base' p')
    (hsource : p.source.ReadsAlike base base') (hs : s.Parallel base base' C s')
    (rs : List (OpeningRequest α)) :
    EndsAlike Eq (Opened base base' C) ((p.carryOutAll rs).exec s)
      ((p'.carryOutAll rs).exec s') := by
  induction rs generalizing p p' s s' with
  | nil => exact .ok ⟨h, hsource, hs⟩
  | cons r rs ih =>
    rw [exec_carryOutAll_cons, exec_carryOutAll_cons]
    have hends := h.carryOut hsource hs r
    rcases hrun : (p.carryOut r).exec s with ⟨outcome, s₁⟩
    rcases hrun' : (p'.carryOut r).exec s' with ⟨outcome', s₁'⟩
    rw [hrun, hrun'] at hends
    cases hends with
    | error he => exact .error he
    | ok hopened => exact ih hopened.1 hopened.2.1 hopened.2.2

theorem reopen (h : p.Parallel base base' p') (hsource : p.source.ReadsAlike base base')
    {t t' : PhraseTerm α} (ht : t.Parallel base base' t') :
    SessionM.Agree Eq (Session.Parallel base base' C) (p.reopen t) (p'.reopen t')
      fun place place' s s' => SamePlace base base' place place' ∧ s.Parallel base base' C s' := by
  intro s s' hs
  unfold Phrase.reopen
  rw [SessionM.exec_bind, SessionM.exec_bind, SessionM.exec_openStream, SessionM.exec_openStream,
    ← ht.opening, ← h.find_eq hsource hs, ← ht.text]
  cases p.source.find s.opened t.opening with
  | error e => exact .error rfl
  | ok found =>
    cases found with
    | none => exact .error rfl
    | some list => exact .ok ⟨hs.samePlace, hs.handOut list⟩

end Phrase.Parallel

namespace Session.Parallel

variable {counter : PairCounter} {answer : CountRequest → Except Failure Int}
  (hcounter : counter.Answers answer)

include hcounter

theorem agree_count (request : CountRequest) :
    SessionM.Agree Eq (Session.Parallel base base' C)
      (SessionM.count counter request : SessionM σ α Int) (SessionM.count counter request)
      (SessionM.Same (Session.Parallel base base' C)) := by
  intro s s' hs
  rw [SessionM.exec_count, SessionM.exec_count, hcounter, hcounter]
  cases answer request with
  | ok n => exact .ok ⟨rfl, hs.opened, hs.scorer⟩
  | error e => exact .error rfl

theorem agree_countMeetings (pairing : Pairing) (window : Int)
    (streams : List (Stream × Stream)) :
    SessionM.Agree Eq (Session.Parallel base base' C)
      (Scoring.countMeetings counter pairing window streams : SessionM σ α Int)
      (Scoring.countMeetings counter pairing window streams)
      (SessionM.Same (Session.Parallel base base' C)) := by
  induction streams with
  | nil => exact .pure fun s s' hs => ⟨rfl, hs⟩
  | cons pair rest ih =>
    obtain ⟨a, b⟩ := pair
    have hmeeting : SessionM.Agree Eq (Session.Parallel base base' C)
        (Scoring.countMeeting counter pairing window a b : SessionM σ α Int)
        (Scoring.countMeeting counter pairing window a b)
        (SessionM.Same (Session.Parallel base base' C)) :=
      .bind_same (.ofExcept (fun _ => rfl) _) fun _ =>
        .bind_same (.ofExcept (fun _ => rfl) _) fun _ =>
        .bind_same (.ofExcept (fun _ => rfl) _) fun _ => agree_count hcounter _
    exact .bind_same hmeeting fun n => .bind_same ih fun m => .pure fun s s' hs => ⟨rfl, hs⟩

variable {p p' : Phrase α} (h : p.Parallel base base' p')
  (hsource : p.source.ReadsAlike base base')

include h hsource

theorem agree_pairFrequency (pairing : Pairing) (window : Int) {x x' y y' : PhraseTerm α}
    (hx : x.Parallel base base' x') (hy : y.Parallel base base' y') :
    SessionM.Agree Eq (Session.Parallel base base' C)
      (Scoring.pairFrequency p counter pairing window x y : SessionM σ α Int)
      (Scoring.pairFrequency p' counter pairing window x' y')
      (SessionM.Same (Session.Parallel base base' C)) := by
  refine (h.reopen hsource hx).bind fun i i' => .of_and fun hi => ?_
  refine (h.reopen hsource hy).bind fun j j' => .of_and fun hj => ?_
  have hcount : SessionM.Agree Eq (Session.Parallel base base' C)
      (do
        let s ← get
        Scoring.countMeetings counter pairing window
          (Scoring.meetings (s.stream i).step (s.stream j).step) : SessionM σ α Int)
      (do
        let s ← get
        Scoring.countMeetings counter pairing window
          (Scoring.meetings (s.stream i').step (s.stream j').step))
      (SessionM.Same (Session.Parallel base base' C)) := by
    intro s s' hs
    rw [SessionM.exec_bind_of_ok (SessionM.exec_get s), SessionM.exec_bind_of_ok
      (SessionM.exec_get s'), hs.stream_eq hi, hs.stream_eq hj]
    exact agree_countMeetings hcounter pairing window _ s s' hs
  exact hcount.andFinally_modify fun s s' hs => (hs.closeStream hi).closeStream hj

theorem agree_pairFrequencies (pairing : Pairing) (window : Int)
    {pairs pairs' : List (PhraseTerm α × PhraseTerm α)}
    (hpairs : List.Forall₂ (fun pair pair' => pair.1.Parallel base base' pair'.1 ∧
      pair.2.Parallel base base' pair'.2) pairs pairs') :
    SessionM.Agree Eq (Session.Parallel base base' C)
      (Scoring.pairFrequencies p counter pairing window pairs : SessionM σ α (List Int))
      (Scoring.pairFrequencies p' counter pairing window pairs')
      (SessionM.Same (Session.Parallel base base' C)) := by
  induction hpairs with
  | nil => exact .pure fun s s' hs => ⟨rfl, hs⟩
  | @cons pair pair' rest rest' hpair _ ih =>
    obtain ⟨x, y⟩ := pair
    obtain ⟨x', y'⟩ := pair'
    refine .bind_same (agree_pairFrequency hcounter h hsource pairing window hpair.1 hpair.2)
      fun n => ?_
    exact .bind_same ih fun ns => .pure fun s s' hs => ⟨rfl, hs⟩

end Session.Parallel

variable [Scalar α]

/-- Preparing a function leaves it in related states, whatever its states were before, and in
related states it scores alike. -/
structure ScoringFunction.Rebinds (f : ScoringFunction σ α) (C : σ → σ → Prop) : Prop where
  bare : ∀ (base base' : Array Stream) (context : Context α) (pairing : Pairing),
    SessionM.Agree Eq (Session.Parallel base base' fun _ _ => True)
      (f.prepare ⟨context, pairing, none⟩) (f.prepare ⟨context, pairing, none⟩)
      (SessionM.Same (Session.Parallel base base' C))
  onPhrase : ∀ {base base' : Array Stream} {p p' : Phrase α} {counter : PairCounter}
    {answer : CountRequest → Except Failure Int}, counter.Answers answer →
    p.Parallel base base' p' → p.source.ReadsAlike base base' →
    ∀ (context : Context α) (pairing : Pairing),
      SessionM.Agree Eq (Session.Parallel base base' fun _ _ => True)
        (f.prepare ⟨context, pairing, some (p, counter)⟩)
        (f.prepare ⟨context, pairing, some (p', counter)⟩)
        (SessionM.Same (Session.Parallel base base' C))
  score : ∀ matching length state state', C state state' →
    (f.score matching length state).1 = (f.score matching length state').1 ∧
      C (f.score matching length state).2 (f.score matching length state').2

namespace ScoringFunction

theorem rebinds_ofScore (name : String) {score : Binding α → Int → Int → Except Failure α}
    (hscore : ∀ b b', b.context = b'.context → score b = score b') :
    (ofScore name score).Rebinds fun b b' => b.context = b'.context where
  bare _ _ _ _ := fun _ _ hs => .ok ⟨rfl, hs.opened, rfl⟩
  onPhrase _ _ _ _ _ := fun _ _ hs => .ok ⟨rfl, hs.opened, rfl⟩
  score matching length b b' h := ⟨congrFun (congrFun (hscore b b' h) matching) length, h⟩

omit [Scalar α] in
theorem agree_set {R : σ → σ → Prop} (scorer : σ) :
    SessionM.Agree Eq (Session.Parallel base base' R)
      (SessionM.onScorer (set scorer) : SessionM σ α PUnit) (SessionM.onScorer (set scorer))
      (SessionM.Same (Session.Parallel base base' Eq)) :=
  fun _ _ hs => .ok ⟨rfl, hs.opened, rfl⟩

omit [Scalar α] in
theorem agree_modify (f : σ → σ) :
    SessionM.Agree Eq (Session.Parallel base base' Eq)
      (SessionM.onScorer (modify f) : SessionM σ α PUnit) (SessionM.onScorer (modify f))
      (SessionM.Same (Session.Parallel base base' Eq)) :=
  fun _ _ hs => .ok ⟨rfl, hs.opened, congrArg f hs.scorer⟩

end ScoringFunction

theorem Scoring.rebinds_markovField {α : Type} [LogScalar α] (mu : α) :
    (Scoring.markovField mu).Rebinds Eq where
  bare _ _ _ _ := .bind_same (ScoringFunction.agree_set _) fun _ => .pure fun _ _ hs => ⟨rfl, hs⟩
  onPhrase hcounter h hsource context pairing := by
    refine .bind_same (ScoringFunction.agree_set _) fun _ => ?_
    simp only [← h.size_eq]
    split
    · exact .pure fun _ _ hs => ⟨rfl, hs⟩
    · refine .bind_same (Session.Parallel.agree_pairFrequencies hcounter h hsource pairing _
        (pairing.forall₂_pairs h.terms)) fun totals => ?_
      refine .bind_same (.ofOption (fun _ => rfl) _ _) fun mean => ?_
      refine .bind_same (ScoringFunction.agree_modify _) fun _ => ?_
      exact .update fun _ _ hs => hs.report _ _
  score matching length b b' h := by
    cases h
    exact ⟨rfl, rfl⟩

namespace ScoringFunction.Rebinds

variable {f : ScoringFunction σ α} {counter : PairCounter}
  {answer : CountRequest → Except Failure Int}
  (hf : f.Rebinds C) (hcounter : counter.Answers answer)

include hf

omit [Scalar α] in
theorem agree_score (matching length : Int) :
    SessionM.Agree Eq (Session.Parallel base base' C)
      (SessionM.onScorer (f.score matching length) : SessionM σ α α)
      (SessionM.onScorer (f.score matching length))
      (SessionM.Same (Session.Parallel base base' C)) := by
  intro s s' hs
  obtain ⟨hvalue, hstate⟩ := hf.score matching length _ _ hs.scorer
  rcases hrun : f.score matching length s.scorer with ⟨outcome, state⟩
  rcases hrun' : f.score matching length s'.scorer with ⟨outcome', state'⟩
  rw [hrun, hrun'] at hvalue hstate
  obtain rfl : outcome = outcome' := hvalue
  simp only [SessionM.exec, SessionM.onScorer, hrun, hrun']
  cases outcome with
  | ok score => exact .ok ⟨rfl, hs.opened, hstate⟩
  | error e => exact .error rfl

include hcounter

theorem agree_scorePair (pairing : Pairing) (window : Int) (i j : Nat) (a b : Sighting) :
    SessionM.Agree Eq (Session.Parallel base base' C)
      ((Rescorer.mk f counter).scorePair pairing window i a j b)
      ((Rescorer.mk f counter).scorePair pairing window i a j b)
      (SessionM.Same (Session.Parallel base base' C)) := by
  unfold Rescorer.scorePair
  refine .bind_same (.ofExcept (fun _ => rfl) _) fun first => ?_
  refine .bind_same (.ofExcept (fun _ => rfl) _) fun second => ?_
  refine .bind_same (Session.Parallel.agree_count hcounter _) fun matching => ?_
  refine .bind_same (agree_score hf _ _) fun score => ?_
  split
  · exact .bind_same (.update fun _ _ hs => hs.report _ _) fun _ => .pure fun _ _ hs => ⟨rfl, hs⟩
  · exact .pure fun _ _ hs => ⟨rfl, hs⟩

theorem agree_addPairs {p : Pass σ α} (hp : p.rescorer = ⟨f, counter⟩)
    (pairs : List (Slot α × Slot α)) (total : α) :
    SessionM.Agree Eq (Session.Parallel base base' C) (p.addPairs pairs total)
      (p.addPairs pairs total) (SessionM.Same (Session.Parallel base base' C)) := by
  induction pairs generalizing total with
  | nil => exact .pure fun _ _ hs => ⟨rfl, hs⟩
  | cons pair rest ih =>
    obtain ⟨x, y⟩ := pair
    rw [Pass.addPairs.eq_def]
    simp only
    split
    · rw [hp]
      exact .bind_same (agree_scorePair hf hcounter _ _ _ _ _ _) fun score => ih _
    · exact ih total

theorem agree_sumNeighbours (window : Int) (pairs : List ((Posting × Nat) × (Posting × Nat)))
    (total : α) :
    SessionM.Agree Eq (Session.Parallel base base' C)
      ((Rescorer.mk f counter).sumNeighbours window pairs total)
      ((Rescorer.mk f counter).sumNeighbours window pairs total)
      (SessionM.Same (Session.Parallel base base' C)) := by
  induction pairs generalizing total with
  | nil => exact .pure fun _ _ hs => ⟨rfl, hs⟩
  | cons pair rest ih =>
    obtain ⟨⟨a, i⟩, b, j⟩ := pair
    exact .bind_same (agree_scorePair hf hcounter _ _ _ _ _ _) fun score => ih _

theorem agree_ready {p : Pass σ α} (hp : p.rescorer = ⟨f, counter⟩) {phrase phrase' : Phrase α}
    (h : phrase.Parallel base base' phrase') (hsource : phrase.source.ReadsAlike base base') :
    SessionM.Agree Eq (Session.Parallel base base' fun _ _ => True) (p.ready phrase)
      (p.ready phrase') (SessionM.Same (Session.Parallel base base' C)) := by
  intro s s' hs
  cases haverage : (phrase.source.statistics.averageWindows? p.settings.window : Option α) with
  | none =>
    have haverage' := haverage
    rw [h.source] at haverage'
    rw [Pass.ready_of_none haverage, Pass.ready_of_none haverage']
    exact .error rfl
  | some average =>
    have haverage' := haverage
    rw [h.source] at haverage'
    have hends : EndsAlike Eq (SessionM.Same (Session.Parallel base base' C))
        ((p.rescorer.function.prepare (p.preparation phrase average)).exec s)
        ((p.rescorer.function.prepare (p.preparation phrase' average)).exec s') := by
      unfold Pass.preparation
      rw [hp, ← h.source]
      exact hf.onPhrase hcounter h hsource _ _ s s' hs
    rw [Pass.exec_ready haverage, Pass.exec_ready haverage', h.streamsIn_eq hs]
    exact hends.map fun _ _ _ _ hsame => ⟨rfl, hsame.2⟩

omit [Scalar α] hf hcounter in
theorem parallel_begun (r : Rescorer σ α) (settings : Settings α) {s s' : Session σ α}
    (hs : s.Parallel base base' C s') :
    (r.begun settings s).Parallel base base' C (r.begun settings s') := by
  unfold Rescorer.begun
  split
  · exact (hs.report _ _).report _ _
  · exact hs.report _ _

omit [Scalar α] hf hcounter in
theorem parallel_announced {phrase phrase' : Phrase α} (h : phrase.Parallel base base' phrase')
    {s s' : Session σ α} (hs : s.Parallel base base' C s') :
    (phrase.announced s).Parallel base base' C (phrase'.announced s') := by
  have hterms := h.terms
  unfold Phrase.announced
  generalize phrase.terms = terms at hterms ⊢
  generalize phrase'.terms = terms' at hterms ⊢
  induction hterms generalizing s s' with
  | nil => exact hs
  | cons _ _ ih => exact ih (hs.report _ _)

theorem run_agree (settings : Settings α) (source : Source) (query : Query α)
    (results : ResultSet α) {s s' : Session σ α}
    (hsource : source.ReadsAlike s.opened s'.opened) :
    EndedAlike Eq ((Rescorer.mk f counter).run (.ok settings) source query results s).1
      ((Rescorer.mk f counter).run (.ok settings) source query results s').1 := by
  have hstart : s.Parallel s.opened s'.opened (fun _ _ => True) s' := .start trivial
  have hbegun := parallel_begun ⟨f, counter⟩ settings hstart
  have hempty : (Phrase.mk source [] : Phrase α).Parallel s.opened s'.opened ⟨source, []⟩ :=
    ⟨rfl, .nil⟩
  refine Rescorer.run_agree (hempty.carryOutAll hsource hbegun _) (fun _ _ _ _ h => h.1.size_eq)
    fun phrase phrase' s₁ s₁' pairing h hsize hmode => ?_
  obtain ⟨hphrase, hreads, hs₁⟩ := h
  have hpass : (Rescorer.mk f counter).passOver settings pairing phrase' =
      (Rescorer.mk f counter).passOver settings pairing phrase := by
    unfold Rescorer.passOver
    rw [hphrase.weights_eq]
  rw [hpass]
  refine Pass.run_agree (R := Session.Parallel s.opened s'.opened C) rfl (fun s₂ s₂' hs₂ => ?_)
    (parallel_announced hphrase hs₁)
  refine (agree_ready hf hcounter rfl hphrase hreads s₂ s₂' hs₂).imp
    fun streams streams' s₃ s₃' hsame => ?_
  obtain ⟨rfl, hs₃⟩ := hsame
  refine ⟨List.forall₂_same.2 fun step _ => ?_, hs₃⟩
  obtain ⟨row, slots⟩ := step
  cases slots with
  | none => exact .kept row
  | some slots => exact .scored row (agree_addPairs hf hcounter rfl _ _)

theorem scoreDocument_eq (reading : Except Settings.Fault (Settings α)) (postings : List Posting)
    (s s' : Session σ α) :
    (((Rescorer.mk f counter).scoreDocument reading postings).exec s).1 =
      (((Rescorer.mk f counter).scoreDocument reading postings).exec s').1 := by
  have hagree : SessionM.Agree Eq (Session.Parallel s.opened s'.opened fun _ _ => True)
      ((Rescorer.mk f counter).scoreDocument reading postings)
      ((Rescorer.mk f counter).scoreDocument reading postings)
      (SessionM.Same (Session.Parallel s.opened s'.opened C)) := by
    refine .bind_same (.ofExcept (fun _ => rfl) _) fun settings => ?_
    refine .bind_same (hf.bare _ _ _ _) fun _ => ?_
    exact .bind_same (agree_sumNeighbours hf hcounter _ _ _) fun total =>
      .pure fun _ _ hs => ⟨rfl, hs⟩
  have hends := hagree s s' (.start trivial)
  rcases hrun : ((Rescorer.mk f counter).scoreDocument reading postings).exec s with
    ⟨outcome, s₁⟩
  rcases hrun' : ((Rescorer.mk f counter).scoreDocument reading postings).exec s' with
    ⟨outcome', s₁'⟩
  rw [hrun, hrun'] at hends
  cases hends with
  | ok hsame => exact congrArg Except.ok hsame.1
  | error he => exact congrArg Except.error he

end ScoringFunction.Rebinds

/-- A call of a rescorer: the results of a query are rescored, or one document is scored. -/
inductive Call (α : Type) where
  | rescore (reading : Except Settings.Fault (Settings α)) (source : Source) (query : Query α)
    (results : ResultSet α)
  | scoreDocument (reading : Except Settings.Fault (Settings α)) (postings : List Posting)

inductive Answer (α : Type) where
  | rescored (outcome : Outcome) (results : ResultSet α)
  | scored (outcome : Except Failure α)

/-- The source of a call opens the same on top of two arrays of streams. -/
def Call.ReadsAlike (base base' : Array Stream) : Call α → Prop
  | .rescore _ source _ _ => source.ReadsAlike base base'
  | .scoreDocument .. => True

namespace Rescorer

def call (r : Rescorer σ α) : Call α → Session σ α → Answer α × Session σ α
  | .rescore reading source query results, s =>
    let ((outcome, results), s') := r.run reading source query results s
    (.rescored outcome results, s')
  | .scoreDocument reading postings, s =>
    let (outcome, s') := (r.scoreDocument reading postings).exec s
    (.scored outcome, s')

def callAll (r : Rescorer σ α) (calls : List (Call α)) (s : Session σ α) : Session σ α :=
  calls.foldl (fun s call => (r.call call s).2) s

theorem call_eq {f : ScoringFunction σ α} {counter : PairCounter}
    {answer : CountRequest → Except Failure Int} (hf : f.Rebinds C)
    (hcounter : counter.Answers answer) (call : Call α) {s s' : Session σ α}
    (hreads : call.ReadsAlike s.opened s'.opened) :
    ((Rescorer.mk f counter).call call s).1 = ((Rescorer.mk f counter).call call s').1 := by
  cases call with
  | rescore reading source query results =>
    cases reading with
    | error fault => rfl
    | ok settings =>
      exact congrArg (fun e => Answer.rescored e.1 e.2)
        (hf.run_agree hcounter settings source query results hreads).eq
  | scoreDocument reading postings =>
    exact congrArg Answer.scored (hf.scoreDocument_eq hcounter reading postings s s')

end Rescorer

/-- The scoring functions of this library. -/
inductive Scoring.Provided {α : Type} [LogScalar α] : ScoringFunction (Binding α) α → Prop
  | normalisedCount : Provided normalisedCount
  | binomialRandomness : Provided binomialRandomness
  | normalisedBinomialRandomness (normalisation : α) :
    Provided (normalisedBinomialRandomness normalisation)
  | markovField (mu : α) : Provided (markovField mu)

theorem Scoring.Provided.rebinds {α : Type} [LogScalar α] {f : ScoringFunction (Binding α) α}
    (h : Provided f) : ∃ C, f.Rebinds C := by
  cases h with
  | normalisedCount => exact ⟨_, ScoringFunction.rebinds_ofScore _ fun _ _ _ => rfl⟩
  | binomialRandomness =>
    refine ⟨_, ScoringFunction.rebinds_ofScore _ fun b b' hcontext => ?_⟩
    simp only [Binding.require, hcontext]
  | normalisedBinomialRandomness normalisation =>
    refine ⟨_, ScoringFunction.rebinds_ofScore _ fun b b' hcontext => ?_⟩
    simp only [Binding.require, hcontext]
  | markovField mu => exact ⟨Eq, rebinds_markovField mu⟩

/-- Nothing is carried over from earlier calls, however they ended: with a scoring function of this
library and a counter that has one answer for each request, the next call is answered as it is when
the scoring function was never bound. Only a source that looks at the streams opened before it can
tell the two apart, so it has to find the same streams or to open the same without them. -/
theorem Rescorer.call_after_history {α : Type} [LogScalar α] {f : ScoringFunction (Binding α) α}
    (hf : Scoring.Provided f) {counter : PairCounter}
    {answer : CountRequest → Except Failure Int} (hcounter : counter.Answers answer)
    (history : List (Call α)) (call : Call α) (opened : Array Stream)
    (answered : Array CountRequest) (events : Array (Event α))
    (hreads : call.ReadsAlike
      ((Rescorer.mk f counter).callAll history (.start α .unbound)).opened opened) :
    ((Rescorer.mk f counter).call call
        ((Rescorer.mk f counter).callAll history (.start α .unbound))).1 =
      ((Rescorer.mk f counter).call call ⟨.unbound, opened, answered, events⟩).1 := by
  obtain ⟨C, hrebinds⟩ := hf.rebinds
  exact call_eq hrebinds hcounter call hreads

def Call.cutShort : List (Call Float) :=
  [.rescore (.ok .neighbours) .refusing .grouped ⟨[], by decide⟩,
    .scoreDocument (.ok .neighbours) [⟨0, 2, [0]⟩, ⟨0, 2, [1]⟩]]

def Call.twoWords : Call Float :=
  .rescore (.ok .neighbours) (Index.ofDocuments [["a", "b"]] [] true).source
    (.ofTokens none ["a", "b"]) ⟨[⟨0, 2.0, 1⟩], by simp⟩

attribute [local instance] Table.Memory.large

theorem Rescorer.call_after_cutShort :
    ((Rescorer.mk (Scoring.markovField Scoring.defaultSmoothing) .windows).call .twoWords
        ((Rescorer.mk (Scoring.markovField Scoring.defaultSmoothing) .windows).callAll
          Call.cutShort (.start Float .unbound))).1 =
      ((Rescorer.mk (Scoring.markovField Scoring.defaultSmoothing) .windows).call .twoWords
        (.start Float .unbound)).1 := by
  have hreads : Call.twoWords.ReadsAlike
      ((Rescorer.mk (Scoring.markovField Scoring.defaultSmoothing) .windows).callAll
        Call.cutShort (.start Float .unbound)).opened #[] := fun _ _ => rfl
  exact Rescorer.call_after_history (.markovField Scoring.defaultSmoothing)
    PairCounter.answers_windows Call.cutShort .twoWords #[] #[] #[] hreads

end ProximityRanking
