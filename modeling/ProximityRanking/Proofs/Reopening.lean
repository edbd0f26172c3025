import ProximityRanking.Proofs.Closing
import ProximityRanking.Proofs.Interruption
import ProximityRanking.Scoring.MarkovField
/-!
Streams that a preparation opens anew. The two streams of a pair are closed when the pair is
counted, whatever fails meanwhile; but if the second term cannot be opened the stream of the first
one is left open. A preparation stops there, so there is one such stream at most.
-/
set_option autoImplicit false

namespace ProximityRanking

variable {σ α : Type}

/-- From one session to a later one some streams were handed out and closed again, and then some
strays, which are open. -/
def Session.Leaves (s s' : Session σ α) (strays : List Stream) : Prop :=
  (∀ stream ∈ strays, stream.closed = false) ∧
    ∃ closed : List Stream, (∀ stream ∈ closed, stream.closed = true) ∧
      s'.opened.toList = s.opened.toList ++ (closed ++ strays)

namespace Session.Leaves

variable {s s' s'' : Session σ α} {strays : List Stream}

theorem of_opened_eq (h : s'.opened = s.opened) : s.Leaves s' [] :=
  ⟨by simp, [], by simp, by simp [h]⟩

theorem trans (h : s.Leaves s' []) (h' : s'.Leaves s'' strays) : s.Leaves s'' strays := by
  obtain ⟨-, closed, hclosed, hopened⟩ := h
  obtain ⟨hstrays, closed', hclosed', hopened'⟩ := h'
  refine ⟨hstrays, closed ++ closed', fun stream hstream => ?_, by simp [hopened, hopened']⟩
  exact (List.mem_append.1 hstream).elim (hclosed stream) (hclosed' stream)

theorem handOut (s : Session σ α) (list : PostingList) :
    s.Leaves (s.handOut list) [.ofList list] :=
  ⟨by simp [Stream.ofList], [], by simp, by simp [Session.handOut]⟩

theorem closeStream_closeStream {first second : PostingList}
    (h : s'.opened = ((s.handOut first).handOut second).opened) :
    s.Leaves ((s'.closeStream s.opened.size).closeStream (s.opened.size + 1)) [] := by
  have hopened : ((s'.closeStream s.opened.size).closeStream (s.opened.size + 1)).opened =
      (s.opened.push (Stream.ofList first).close).push (Stream.ofList second).close := by
    refine Array.ext_getElem? fun i => ?_
    simp only [getElem?_opened_closeStream, h, Session.handOut, Array.getElem?_push,
      Array.size_push]
    by_cases hfirst : i = s.opened.size
    · simp [hfirst]
    · by_cases hsecond : i = s.opened.size + 1
      · simp [hsecond]
      · simp [hfirst, hsecond, Ne.symm hfirst, Ne.symm hsecond]
  exact ⟨by simp, [(Stream.ofList first).close, (Stream.ofList second).close],
    by simp [Stream.close], by simp [hopened]⟩

end Session.Leaves

theorem Phrase.exec_reopen_cases (p : Phrase α) (t : PhraseTerm α) (s : Session σ α) :
    (∃ list, p.source.find s.opened t.opening = .ok (some list) ∧
      (p.reopen t).exec s = (.ok s.opened.size, s.handOut list)) ∨
    ((∀ list, p.source.find s.opened t.opening ≠ .ok (some list)) ∧
      ∃ e, (p.reopen t).exec s = (.error e, s)) := by
  unfold reopen
  rw [SessionM.exec_bind, SessionM.exec_openStream]
  cases p.source.find s.opened t.opening with
  | error e => exact .inr ⟨by simp, e, rfl⟩
  | ok found =>
    cases found with
    | none => exact .inr ⟨by simp, .termVanished t.text, rfl⟩
    | some list => exact .inl ⟨list, rfl, rfl⟩

/-- The source opens one thing, but then not another one: it refuses it or has forgotten it. -/
def Source.OpensOnly (source : Source) (opened : Array Stream) (first second : Opening)
    (list : PostingList) : Prop :=
  source.find opened first = .ok (some list) ∧
    ∀ list', source.find (opened.push (.ofList list)) second ≠ .ok (some list')

namespace Scoring

theorem keepsOpened_countMeetings (counter : PairCounter) (pairing : Pairing) (window : Int)
    (streams : List (Stream × Stream)) :
    (countMeetings counter pairing window streams : SessionM σ α Int).KeepsOpened := by
  induction streams with
  | nil => exact .pure 0
  | cons pair rest ih =>
    obtain ⟨a, b⟩ := pair
    refine .bind ?_ fun n => .bind ih fun m => .pure _
    exact .bind (.ofExcept _) fun _ => .bind (.ofExcept _) fun _ => .bind (.ofExcept _)
      fun _ => .count _ _

variable {phrase : Phrase α} {counter : PairCounter} {pairing : Pairing} {window : Int}
  {pairs rest : List (PhraseTerm α × PhraseTerm α)} {x y : PhraseTerm α} {s s' : Session σ α}

theorem pairFrequency_of_opensOnly {list : PostingList}
    (h : phrase.source.OpensOnly s.opened x.opening y.opening list) :
    ∃ e, (pairFrequency phrase counter pairing window x y).exec s = (.error e, s.handOut list) := by
  obtain ⟨hfirst, hsecond⟩ := h
  unfold pairFrequency
  rcases phrase.exec_reopen_cases x s with ⟨first, hx, hrun⟩ | ⟨hx, -⟩
  · obtain rfl : first = list := by simpa using hx.symm.trans hfirst
    rw [SessionM.exec_bind_of_ok hrun]
    rcases phrase.exec_reopen_cases y (s.handOut first) with ⟨second, hy, -⟩ | ⟨-, e, hrun'⟩
    · exact absurd hy (hsecond second)
    · exact ⟨e, SessionM.exec_bind_of_error hrun' _⟩
  · exact absurd hfirst (hx list)

theorem leaves_pairFrequency
    (h : ∀ list, ¬ phrase.source.OpensOnly s.opened x.opening y.opening list) :
    s.Leaves ((pairFrequency phrase counter pairing window x y).exec s).2 [] := by
  unfold pairFrequency
  rcases phrase.exec_reopen_cases x s with ⟨first, hx, hrun⟩ | ⟨-, e, hrun⟩
  · rw [SessionM.exec_bind_of_ok hrun]
    rcases phrase.exec_reopen_cases y (s.handOut first) with ⟨second, -, hrun'⟩ | ⟨hy, -⟩
    · have hsize : (s.handOut first).opened.size = s.opened.size + 1 := by simp [Session.handOut]
      rw [SessionM.exec_bind_of_ok hrun', SessionM.exec_andFinally_modify, hsize]
      exact .closeStream_closeStream (keepsOpened_countMeetings _ _ _ _ _)
    · exact absurd ⟨hx, hy⟩ (h first)
  · rw [SessionM.exec_bind_of_error hrun]
    exact .of_opened_eq rfl

theorem leaves_of_pairFrequency_eq_ok {n : Int}
    (h : (pairFrequency phrase counter pairing window x y).exec s = (.ok n, s')) :
    s.Leaves s' [] := by
  have hopens : ∀ list, ¬ phrase.source.OpensOnly s.opened x.opening y.opening list := by
    intro list hopens
    obtain ⟨e, hrun⟩ := pairFrequency_of_opensOnly hopens
    cases hrun.symm.trans h
  have hleaves : s.Leaves ((pairFrequency phrase counter pairing window x y).exec s).2 [] :=
    leaves_pairFrequency hopens
  rwa [h] at hleaves

/-- Opening stops between the two terms of a pair, when the pairs before it have been counted. -/
inductive StopsBetween (phrase : Phrase α) (counter : PairCounter) (pairing : Pairing)
    (window : Int) : List (PhraseTerm α × PhraseTerm α) → Session σ α → Prop
  | here {x y : PhraseTerm α} {rest : List (PhraseTerm α × PhraseTerm α)} {s : Session σ α}
    {list : PostingList} (opens : phrase.source.OpensOnly s.opened x.opening y.opening list) :
    StopsBetween phrase counter pairing window ((x, y) :: rest) s
  | later {x y : PhraseTerm α} {rest : List (PhraseTerm α × PhraseTerm α)} {s s' : Session σ α}
    {n : Int} (counted : (pairFrequency phrase counter pairing window x y).exec s = (.ok n, s'))
    (stops : StopsBetween phrase counter pairing window rest s') :
    StopsBetween phrase counter pairing window ((x, y) :: rest) s

theorem exec_pairFrequencies_of_ok {n : Int}
    (h : (pairFrequency phrase counter pairing window x y).exec s = (.ok n, s')) :
    (pairFrequencies phrase counter pairing window ((x, y) :: rest)).exec s =
      (((pairFrequencies phrase counter pairing window rest).exec s').1.map (n :: ·),
        ((pairFrequencies phrase counter pairing window rest).exec s').2) := by
  rw [pairFrequencies, SessionM.exec_bind_of_ok h, SessionM.exec_bind]
  rcases (pairFrequencies phrase counter pairing window rest).exec s' with ⟨outcome, s''⟩
  cases outcome <;> rfl

theorem StopsBetween.exec_pairFrequencies
    (h : StopsBetween phrase counter pairing window pairs s) :
    ∃ e s' list, (pairFrequencies phrase counter pairing window pairs).exec s = (.error e, s') ∧
      s.Leaves s' [.ofList list] := by
  induction h with
  | @here x y rest s list hopens =>
    obtain ⟨e, hrun⟩ := pairFrequency_of_opensOnly hopens
    exact ⟨e, _, list, SessionM.exec_bind_of_error hrun _, .handOut s list⟩
  | @later x y rest s s' n hcounted hstops ih =>
    obtain ⟨e, s'', list, hrun, hleaves⟩ := ih
    refine ⟨e, s'', list, ?_, (leaves_of_pairFrequency_eq_ok hcounted).trans hleaves⟩
    rw [exec_pairFrequencies_of_ok hcounted, hrun]
    rfl

theorem leaves_pairFrequencies (h : ¬ StopsBetween phrase counter pairing window pairs s) :
    s.Leaves ((pairFrequencies phrase counter pairing window pairs).exec s).2 [] := by
  induction pairs generalizing s with
  | nil => exact .of_opened_eq rfl
  | cons pair rest ih =>
    obtain ⟨x, y⟩ := pair
    have hpair : s.Leaves ((pairFrequency phrase counter pairing window x y).exec s).2 [] :=
      leaves_pairFrequency fun list hopens => h (.here hopens)
    rcases hrun : (pairFrequency phrase counter pairing window x y).exec s with ⟨outcome, s'⟩
    rw [hrun] at hpair
    cases outcome with
    | error e =>
      rw [pairFrequencies, SessionM.exec_bind_of_error hrun]
      exact hpair
    | ok n =>
      rw [exec_pairFrequencies_of_ok hrun]
      exact hpair.trans (ih fun hstops => h (.later hrun hstops))

theorem pairs_eq_nil {β : Type} {l : List β} (h : l.length < 2) : pairing.pairs l = [] := by
  match l with
  | [] => cases pairing <;> rfl
  | [b] => cases pairing <;> rfl
  | b :: b' :: l =>
    rw [List.length_cons, List.length_cons] at h
    omega

variable [Scalar α] {context : Context α} {s s' : Session (Binding α) α}

theorem exec_prepareMarkovField_of_error {e : Failure}
    (h : (pairFrequencies phrase counter pairing context.window
      (pairing.pairs phrase.terms)).exec { s with scorer := Binding.bound context } =
        (.error e, s')) :
    (prepareMarkovField ⟨context, pairing, some (phrase, counter)⟩).exec s = (.error e, s') := by
  have hsize : ¬ phrase.size < 2 := by
    intro hsize
    rw [pairs_eq_nil hsize] at h
    cases h
  unfold prepareMarkovField
  rw [SessionM.exec_bind_of_ok (SessionM.exec_onScorer_set _ s)]
  simp only [hsize, if_false]
  exact SessionM.exec_bind_of_error h _

theorem opened_prepareMarkovField (phrase : Phrase α) (counter : PairCounter) (pairing : Pairing)
    (context : Context α) (s : Session (Binding α) α) :
    ((prepareMarkovField ⟨context, pairing, some (phrase, counter)⟩).exec s).2.opened =
      ((pairFrequencies phrase counter pairing context.window (pairing.pairs phrase.terms)).exec
        { s with scorer := Binding.bound context }).2.opened := by
  rcases h : (pairFrequencies phrase counter pairing context.window
    (pairing.pairs phrase.terms)).exec { s with scorer := Binding.bound context } with
    ⟨outcome, s'⟩
  cases outcome with
  | error e => rw [exec_prepareMarkovField_of_error h]
  | ok totals =>
    unfold prepareMarkovField
    rw [SessionM.exec_bind_of_ok (SessionM.exec_onScorer_set _ s)]
    by_cases hsize : phrase.size < 2
    · rw [pairs_eq_nil hsize] at h
      obtain rfl : { s with scorer := Binding.bound context } = s' := congrArg Prod.snd h
      simp only [hsize, if_true, SessionM.exec_pure]
    · simp only [hsize, if_false]
      rw [SessionM.exec_bind_of_ok h]
      exact SessionM.KeepsOpened.bind (.ofOption _ _)
        (fun mean => .bind (.onScorer _) fun _ => .report _) s'

/-- A preparation leaves one stream open when opening stops between the two terms of a pair, and
then it fails. Otherwise it leaves none open, however it ends. -/
theorem leaves_prepareMarkovField (phrase : Phrase α) (counter : PairCounter) (pairing : Pairing)
    (context : Context α) (s : Session (Binding α) α) :
    (StopsBetween phrase counter pairing context.window (pairing.pairs phrase.terms)
        { s with scorer := Binding.bound context } →
      ∃ e s' list, (prepareMarkovField ⟨context, pairing, some (phrase, counter)⟩).exec s =
          (.error e, s') ∧
        s.Leaves s' [.ofList list]) ∧
    (¬ StopsBetween phrase counter pairing context.window (pairing.pairs phrase.terms)
        { s with scorer := Binding.bound context } →
      s.Leaves ((prepareMarkovField ⟨context, pairing, some (phrase, counter)⟩).exec s).2 []) := by
  constructor
  · intro hstops
    obtain ⟨e, s', list, hrun, hleaves⟩ := hstops.exec_pairFrequencies
    exact ⟨e, s', list, exec_prepareMarkovField_of_error hrun, hleaves⟩
  · intro hstops
    obtain ⟨hnone, closed, hclosed, hopened⟩ := leaves_pairFrequencies hstops
    rw [← opened_prepareMarkovField] at hopened
    exact ⟨hnone, closed, hclosed, hopened⟩

end Scoring

def Source.forgetting (source : Source) (text : String) : Source where
  find opened opening :=
    if opening = .term text ∧ opened.toList.any (·.list.term == some text) then .ok none
    else source.find opened opening
  statistics := source.statistics

attribute [local instance] Table.Memory.large

/-- Preparing a phrase whose second term is forgotten leaves its first term open. -/
theorem Scoring.prepareMarkovField_forgetting :
    ∃ (phrase : Phrase Float) (s₁ s₂ : Session (Binding Float) Float),
      (Phrase.ofQuery (Source.twoWords.forgetting "b") (Query.ofTokens none ["a", "b"]).filtered
        true).exec (.start Float .unbound) = (.ok phrase, s₁) ∧
      phrase.size = 2 ∧
      (prepareMarkovField ⟨.bare 2, .adjacent, some (phrase, .windows)⟩).exec s₁ =
        (.error (.termVanished "b"), s₂) ∧
      (s₁.handedOut s₂).map Stream.closed = [false] := by
  unfold Phrase.ofQuery
  rw [requests_ofTokens_two]
  exact ⟨_, _, _, rfl, rfl, rfl, rfl⟩

end ProximityRanking
