import ProximityRanking.Proofs.LookUp
import ProximityRanking.Proofs.Renaming
import ProximityRanking.Scoring.MarkovField
/-!
Two streams that move past each other meet in every document that both of them have, and once only.
What they meet in is the join of their postings, which for the terms of an index is read off the
documents.
-/
set_option autoImplicit false

namespace ProximityRanking

-- Sums start from the zero of core, whatever else is imported.
attribute [local instance (high)] Zero.ofOfNat0

def joinPostings (ps qs : List Posting) : List (Posting × Posting) :=
  ps.filterMap fun p => (qs.find? fun q => q.docid == p.docid).map fun q => (p, q)

theorem joinPostings_nil_right (ps : List Posting) : joinPostings ps [] = [] := by
  simp [joinPostings]

theorem joinPostings_of_lt {p : Posting} {qs : List Posting} (h : ∀ q ∈ qs, p.docid < q.docid)
    (ps : List Posting) : joinPostings (p :: ps) qs = joinPostings ps qs := by
  have hnone : qs.find? (fun q => q.docid == p.docid) = none := by
    refine List.find?_eq_none.2 fun q hq => ?_
    have hlt := h q hq
    rw [beq_iff_eq]
    omega
  unfold joinPostings
  rw [List.filterMap_cons_none (by rw [hnone]; rfl)]

theorem joinPostings_of_gt {q : Posting} {ps : List Posting} (h : ∀ p ∈ ps, q.docid < p.docid)
    (qs : List Posting) : joinPostings ps (q :: qs) = joinPostings ps qs := by
  refine List.filterMap_congr fun p hp => ?_
  have hlt := h p hp
  have hne : (q.docid == p.docid) = false := beq_false_of_ne (by omega)
  rw [List.find?_cons, hne]

theorem joinPostings_of_eq {p q : Posting} {ps : List Posting} (h : q.docid = p.docid)
    (hps : ∀ p' ∈ ps, q.docid < p'.docid) (qs : List Posting) :
    joinPostings (p :: ps) (q :: qs) = (p, q) :: joinPostings ps qs := by
  rw [← joinPostings_of_gt hps qs]
  unfold joinPostings
  rw [List.filterMap_cons_some (b := (p, q)) (by simp [h])]

theorem joinPostings_filterMap {δ : Type} {place : δ → Int} {l : List δ}
    (hl : l.Pairwise fun a b => place a < place b) {f g : δ → Option Posting}
    (hf : ∀ a p, f a = some p → p.docid = place a) (hg : ∀ a p, g a = some p → p.docid = place a) :
    joinPostings (l.filterMap f) (l.filterMap g) =
      l.filterMap fun a => (f a).bind fun p => (g a).map fun q => (p, q) := by
  induction l with
  | nil => rfl
  | cons a l ih =>
    obtain ⟨ha, hl⟩ := List.pairwise_cons.1 hl
    -- What is selected further on lies behind this element.
    have hlater : ∀ {h : δ → Option Posting}, (∀ a p, h a = some p → p.docid = place a) →
        ∀ {p : Posting}, p.docid = place a → ∀ q ∈ l.filterMap h, p.docid < q.docid := by
      intro h hh p hp q hq
      obtain ⟨b, hb, hq⟩ := List.mem_filterMap.1 hq
      rw [hp, hh b q hq]
      exact ha b hb
    have hrest := ih hl
    simp only [List.filterMap_cons]
    cases hfa : f a with
    | none =>
      cases hga : g a with
      | none => exact hrest
      | some q =>
        rw [joinPostings_of_gt (hlater hf (hg a q hga)), hrest]
        rfl
    | some p =>
      cases hga : g a with
      | none =>
        rw [joinPostings_of_lt (hlater hg (hf a p hfa)), hrest]
        rfl
      | some q =>
        rw [joinPostings_of_eq ((hg a q hga).trans (hf a p hfa).symm) (hlater hf (hg a q hga)),
          hrest]
        rfl

theorem joinPostings_postingsWhere (p q : String → Bool) (documents : List (List String)) :
    joinPostings (Index.postingsWhere p documents) (Index.postingsWhere q documents) =
      documents.zipIdx.filterMap fun e => if e.1.any p && e.1.any q then
        some (⟨e.2, e.1.length, Index.positionsWhere p e.1⟩,
          ⟨e.2, e.1.length, Index.positionsWhere q e.1⟩) else none := by
  have hascending : documents.zipIdx.Pairwise fun a b => (a.2 : Int) < b.2 :=
    (Index.pairwise_zipIdx documents 0).imp fun h => Int.ofNat_lt.2 h
  unfold Index.postingsWhere
  rw [joinPostings_filterMap hascending (fun _ _ => Index.docid_of_postingWhere?)
    fun _ _ => Index.docid_of_postingWhere?]
  refine List.filterMap_congr fun e _ => ?_
  unfold Index.postingWhere?
  cases e.1.any p <;> cases e.1.any q <;> rfl

namespace Stream

def ahead (s : Stream) : List Posting :=
  s.list.postings.toList.drop (s.steps - 1)

theorem ahead_step_ofList (list : PostingList) :
    (ofList list).step.ahead = list.postings.toList := by
  rw [ahead, step_ofList_steps, step_list]
  rfl

theorem ahead_of_current? {s : Stream} {p : Posting} (h : s.current? = some p) :
    s.steps ≤ s.size ∧ s.ahead = p :: s.step.ahead := by
  obtain ⟨k, hk⟩ : ∃ k, s.steps = k + 1 := by
    cases hs : s.steps with
    | zero => simp [current?, hs] at h
    | succ k => exact ⟨k, rfl⟩
  have hp : s.list.postings[k]? = some p := by simpa [current?, hk] using h
  obtain ⟨hlt, rfl⟩ := Array.getElem?_eq_some_iff.1 hp
  have hsteps : s.steps ≤ s.size := by
    unfold size
    omega
  refine ⟨hsteps, ?_⟩
  rw [ahead, ahead, step_list, step_steps hsteps, hk,
    List.drop_eq_getElem_cons (by simpa using hlt)]
  simp

theorem docLength_of_current? {s : Stream} {p : Posting} (h : s.current? = some p) :
    s.docLength = .ok p.length := by
  simp [docLength, require, h, Except.map]

theorem positions_of_current? {s : Stream} {p : Posting} (hpos : s.list.positional = true)
    (h : s.current? = some p) : s.positions = .ok p.positions := by
  simp [positions, require, hpos, h, Except.map]

theorem ahead_eq_nil {s : Stream} (hstarted : 1 ≤ s.steps) (h : s.current? = none) :
    s.ahead = [] := by
  obtain ⟨k, hk⟩ : ∃ k, s.steps = k + 1 := ⟨s.steps - 1, by omega⟩
  have hp : s.list.postings[k]? = none := by simpa [current?, hk] using h
  have hsize : s.list.postings.size ≤ k := Array.getElem?_eq_none_iff.1 hp
  rw [ahead, hk]
  exact List.drop_eq_nil_of_le (by simpa using hsize)

structure Started (s : Stream) : Prop where
  ascends : s.list.Ascends
  started : 1 ≤ s.steps

namespace Started

variable {s : Stream}

theorem step_ofList {list : PostingList} (h : list.Ascends) : (ofList list).step.Started := by
  refine ⟨by rwa [Stream.step_list], ?_⟩
  rw [step_ofList_steps]

theorem step (h : s.Started) (hsteps : s.steps ≤ s.size) : s.step.Started := by
  refine ⟨by rw [step_list]; exact h.ascends, ?_⟩
  rw [step_steps hsteps]
  omega

theorem pairwise_ahead (h : s.Started) : s.ahead.Pairwise fun p q => p.docid < q.docid :=
  h.ascends.docids.sublist (List.drop_sublist _ _)

theorem current?_of_docid_ne (h : s.Started) (hend : s.docid ≠ endOfList) :
    ∃ p, s.current? = some p ∧ s.docid = p.docid := by
  cases hcurrent : s.current? with
  | none => exact absurd (docid_eq_endOfList h.started hcurrent) hend
  | some p => exact ⟨p, rfl, docid_of_current? hcurrent⟩

theorem le_ahead (h : s.Started) {p : Posting} (hcurrent : s.current? = some p) :
    ∀ q ∈ s.ahead, p.docid ≤ q.docid := by
  have hpairwise := h.pairwise_ahead
  rw [(ahead_of_current? hcurrent).2] at hpairwise ⊢
  refine List.forall_mem_cons.2 ⟨Int.le_refl _, fun q hq => ?_⟩
  exact Int.le_of_lt ((List.pairwise_cons.1 hpairwise).1 q hq)

theorem ahead_of_docid_eq (h : s.Started) (hend : s.docid = endOfList) : s.ahead = [] := by
  cases hcurrent : s.current? with
  | none => exact ahead_eq_nil h.started hcurrent
  | some p =>
    have hmem : p ∈ s.list.postings.toList := by
      have hahead : p ∈ s.ahead := by simp [(ahead_of_current? hcurrent).2]
      exact List.mem_of_mem_drop hahead
    have hlt := h.ascends.below_end p hmem
    rw [docid_of_current? hcurrent] at hend
    omega

end Started
end Stream

structure Meets (first second : PostingList) (streams : Stream × Stream)
    (postings : Posting × Posting) : Prop where
  first : streams.1.list = first ∧ streams.1.current? = some postings.1
  second : streams.2.list = second ∧ streams.2.current? = some postings.2

theorem Scoring.forall₂_meetings {a b : Stream} (ha : a.Started) (hb : b.Started) :
    List.Forall₂ (Meets a.list b.list) (meetings a b) (joinPostings a.ahead b.ahead) := by
  fun_induction meetings a b with
  | case1 a b h =>
    obtain hend | hend := h
    · rw [ha.ahead_of_docid_eq hend]
      exact .nil
    · rw [hb.ahead_of_docid_eq hend, joinPostings_nil_right]
      exact .nil
  | case2 a b hends h ih =>
    obtain ⟨ha', hb'⟩ := not_or.1 hends
    obtain ⟨p, hp, hdocid⟩ := ha.current?_of_docid_ne ha'
    obtain ⟨q, hq, hdocid'⟩ := hb.current?_of_docid_ne hb'
    have hlater : ∀ q' ∈ b.ahead, p.docid < q'.docid := by
      intro q' hq'
      have hle := hb.le_ahead hq q' hq'
      omega
    have hrest := ih (ha.step h.2) hb
    rw [Stream.step_list] at hrest
    rwa [(Stream.ahead_of_current? hp).2, joinPostings_of_lt hlater]
  | case3 a b hends _ h ih =>
    obtain ⟨ha', hb'⟩ := not_or.1 hends
    obtain ⟨p, hp, hdocid⟩ := ha.current?_of_docid_ne ha'
    obtain ⟨q, hq, hdocid'⟩ := hb.current?_of_docid_ne hb'
    have hlater : ∀ p' ∈ a.ahead, q.docid < p'.docid := by
      intro p' hp'
      have hle := ha.le_ahead hp p' hp'
      omega
    have hrest := ih ha (hb.step h.2)
    rw [Stream.step_list] at hrest
    rwa [(Stream.ahead_of_current? hq).2, joinPostings_of_gt hlater]
  | case4 a b hends hlt hgt h ih =>
    obtain ⟨ha', hb'⟩ := not_or.1 hends
    obtain ⟨p, hp, hdocid⟩ := ha.current?_of_docid_ne ha'
    obtain ⟨q, hq, hdocid'⟩ := hb.current?_of_docid_ne hb'
    have heq : q.docid = p.docid := by
      have := fun hd => hlt ⟨hd, h.1⟩
      have := fun hd => hgt ⟨hd, h.2⟩
      omega
    have hpairwise := ha.pairwise_ahead
    rw [(Stream.ahead_of_current? hp).2] at hpairwise
    have hlater : ∀ p' ∈ a.step.ahead, q.docid < p'.docid := by
      rw [heq]
      exact (List.pairwise_cons.1 hpairwise).1
    have hrest := ih (ha.step h.1) (hb.step h.2)
    rw [Stream.step_list, Stream.step_list] at hrest
    rw [(Stream.ahead_of_current? hp).2, (Stream.ahead_of_current? hq).2,
      joinPostings_of_eq heq hlater]
    exact .cons ⟨⟨rfl, hp⟩, rfl, hq⟩ hrest
  | case5 a b hends _ _ h =>
    obtain ⟨ha', hb'⟩ := not_or.1 hends
    obtain ⟨p, hp, -⟩ := ha.current?_of_docid_ne ha'
    obtain ⟨q, hq, -⟩ := hb.current?_of_docid_ne hb'
    exact absurd ⟨(Stream.ahead_of_current? hp).1, (Stream.ahead_of_current? hq).1⟩ h

def requestFor (pairing : Pairing) (window : Int) (postings : Posting × Posting) : CountRequest :=
  ⟨pairing, postings.1.positions, postings.2.positions, window, postings.1.length⟩

namespace Scoring

variable {σ α : Type} {counter : PairCounter} {answer : CountRequest → Except Failure Int}
  {first second : PostingList}

theorem exec_countMeeting (hcounter : counter.Answers answer) (hfirst : first.positional = true)
    (hsecond : second.positional = true) (pairing : Pairing) (window : Int)
    {streams : Stream × Stream} {postings : Posting × Posting}
    (h : Meets first second streams postings) (s : Session σ α) :
    ∃ answered, (countMeeting counter pairing window streams.1 streams.2).exec s =
      (answer (requestFor pairing window postings), { s with answered := answered }) := by
  obtain ⟨a, b⟩ := streams
  obtain ⟨⟨rfl, ha⟩, rfl, hb⟩ := h
  have hcount : (countMeeting counter pairing window a b : SessionM σ α Int) =
      SessionM.count counter (requestFor pairing window postings) := by
    unfold countMeeting
    rw [Stream.positions_of_current? hfirst ha, Stream.positions_of_current? hsecond hb,
      Stream.docLength_of_current? ha]
    rfl
  rw [hcount, SessionM.exec_count, hcounter]
  cases answer (requestFor pairing window postings) with
  | ok n => exact ⟨_, rfl⟩
  | error e => exact ⟨s.answered, rfl⟩

theorem exec_countMeetings (hcounter : counter.Answers answer) (hfirst : first.positional = true)
    (hsecond : second.positional = true) (pairing : Pairing) (window : Int)
    {streams : List (Stream × Stream)} {postings : List (Posting × Posting)}
    (h : List.Forall₂ (Meets first second) streams postings)
    (s : Session σ α) :
    ∃ answered, (countMeetings counter pairing window streams).exec s =
      ((postings.mapM fun both => answer (requestFor pairing window both)).map List.sum,
        { s with answered := answered }) := by
  induction h generalizing s with
  | nil => exact ⟨s.answered, rfl⟩
  | @cons meeting both streams postings hmeets _ ih =>
    obtain ⟨answered, hrun⟩ :=
      exec_countMeeting hcounter hfirst hsecond pairing window hmeets s
    rw [countMeetings, List.mapM_cons]
    cases hanswer : answer (requestFor pairing window both) with
    | error e =>
      rw [hanswer] at hrun
      exact ⟨answered, SessionM.exec_bind_of_error hrun _⟩
    | ok n =>
      rw [hanswer] at hrun
      rw [SessionM.exec_bind_of_ok hrun, SessionM.exec_bind]
      obtain ⟨answered', hrest⟩ := ih { s with answered := answered }
      rw [hrest]
      cases postings.mapM fun both => answer (requestFor pairing window both) with
      | error e => exact ⟨answered', rfl⟩
      | ok ns => exact ⟨answered', rfl⟩

end Scoring
end ProximityRanking
