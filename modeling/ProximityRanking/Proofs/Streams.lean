import Mathlib.Logic.Function.Iterate
import ProximityRanking.Stream
/-!
Streams that only move forward read what a lookup in the postings finds. `Stream.Behind` is what
makes it so: nothing that a stream has left lies at the target or beyond it. Advancing keeps this
for the target and for every later one.
-/
set_option autoImplicit false

namespace ProximityRanking

namespace PostingList

/-- The postings of a list stand in ascending order of their documents, and none of them is where
streams end. -/
structure Ascends (list : PostingList) : Prop where
  docids : list.postings.toList.Pairwise fun p q => p.docid < q.docid
  below_end : ∀ p ∈ list.postings.toList, p.docid < endOfList

def lookUp (list : PostingList) (docid : Int) : Option Posting :=
  list.postings.toList.find? fun p => p.docid == docid

def sightingOf (list : PostingList) (p : Posting) : Sighting where
  docid := p.docid
  length := p.length
  positions := if list.positional then .ok p.positions else .error (.missingPositions list.term)

theorem sightingOf_eq_ofPosting {list : PostingList} (h : list.positional = true) (p : Posting) :
    list.sightingOf p = .ofPosting p := by
  simp [sightingOf, Sighting.ofPosting, h]

theorem Ascends.lt_of_lt {list : PostingList} (h : list.Ascends) {i j : Nat} {p q : Posting}
    (hp : list.postings[i]? = some p) (hq : list.postings[j]? = some q) (hij : i < j) :
    p.docid < q.docid := by
  obtain ⟨hi, rfl⟩ := Array.getElem?_eq_some_iff.1 hp
  obtain ⟨hj, rfl⟩ := Array.getElem?_eq_some_iff.1 hq
  have hpair := List.pairwise_iff_getElem.1 h.docids i j
    (by simpa using hi) (by simpa using hj) hij
  simpa using hpair

theorem lookUp_eq_some {list : PostingList} (h : list.Ascends) {k : Nat} {p : Posting}
    (hp : list.postings[k]? = some p) : list.lookUp p.docid = some p := by
  have hk : list.postings.toList[k]? = some p := by simpa using hp
  cases hfound : list.lookUp p.docid with
  | none =>
    have hnone := List.find?_eq_none.1 hfound p (List.mem_of_getElem? hk)
    simp at hnone
  | some q =>
    have hq : q.docid = p.docid := by simpa using List.find?_some hfound
    obtain ⟨j, hj⟩ := List.mem_iff_getElem?.1 (List.mem_of_find?_eq_some hfound)
    have hj' : list.postings[j]? = some q := by simpa using hj
    rcases Nat.lt_trichotomy j k with hjk | rfl | hjk
    · have := h.lt_of_lt hj' hp hjk
      omega
    · rw [hp] at hj'
      exact congrArg some (Option.some.inj hj').symm
    · have := h.lt_of_lt hp hj' hjk
      omega

theorem lookUp_eq_first {list : PostingList} (h : list.Ascends) (docid : Int) :
    list.lookUp docid = (list.postings.toList.find? fun p => decide (docid ≤ p.docid)).filter
      fun p => p.docid == docid := by
  have hascending := h.docids
  unfold lookUp
  generalize list.postings.toList = postings at hascending
  induction postings with
  | nil => rfl
  | cons p rest ih =>
    obtain ⟨hlater, hrest⟩ := List.pairwise_cons.1 hascending
    rcases Int.lt_trichotomy p.docid docid with hlt | rfl | hlt
    · have hne : (p.docid == docid) = false := by simp; omega
      have hnot : ¬ docid ≤ p.docid := by omega
      simp [hne, hnot, ih hrest]
    · simp [Option.filter]
    · have hne : (p.docid == docid) = false := by simp; omega
      have hle : docid ≤ p.docid := by omega
      have hnone : rest.find? (fun q => q.docid == docid) = none := by
        refine List.find?_eq_none.2 fun q hq => ?_
        have := hlater q hq
        simp
        omega
      simp [hne, hle, hnone, Option.filter]

end PostingList

def PostingList.stops (list : PostingList) : List Int :=
  list.postings.toList.map Posting.docid ++ [endOfList]

theorem PostingList.Ascends.pairwise_stops {list : PostingList} (h : list.Ascends) :
    list.stops.Pairwise (· < ·) := by
  unfold stops
  rw [List.pairwise_append, List.pairwise_map]
  refine ⟨h.docids, List.pairwise_singleton _ _, fun docid hdocid last hlast => ?_⟩
  obtain ⟨p, hp, rfl⟩ := List.mem_map.1 hdocid
  obtain rfl := List.mem_singleton.1 hlast
  exact h.below_end p hp

namespace Stream

@[simp] theorem ofList_list (list : PostingList) : (ofList list).list = list := rfl

theorem step_ofList_steps (list : PostingList) : (ofList list).step.steps = 1 :=
  step_steps (Nat.zero_le _)

theorem docid_of_current? {s : Stream} {p : Posting} (h : s.current? = some p) :
    s.docid = p.docid := by
  cases hs : s.steps with
  | zero => simp [current?, hs] at h
  | succ k =>
    have hk : s.list.postings[k]? = some p := by simpa [current?, hs] using h
    simp [docid, hs, hk]

theorem posting_of_current? {s : Stream} {p : Posting} (hpos : s.list.positional = true)
    (h : s.current? = some p) : s.posting = .ok p := by
  have hreq : s.require = .ok p := by simp [require, h]
  simp [posting, positions, docLength, hpos, hreq, docid_of_current? h, Except.map, bind,
    Except.bind, pure, Except.pure]

theorem current?_eq_none_iff {s : Stream} (h : 1 ≤ s.steps) :
    s.current? = none ↔ s.size < s.steps := by
  obtain ⟨k, hk⟩ : ∃ k, s.steps = k + 1 := ⟨s.steps - 1, by omega⟩
  simp only [current?, hk, Array.getElem?_eq_none_iff, size]
  omega

theorem docid_eq_endOfList {s : Stream} (hstarted : 1 ≤ s.steps) (h : s.current? = none) :
    s.docid = endOfList := by
  obtain ⟨k, hk⟩ : ∃ k, s.steps = k + 1 := ⟨s.steps - 1, by omega⟩
  have hp : s.list.postings[k]? = none := by simpa [current?, hk] using h
  simp [docid, hk, hp]

@[simp] theorem iterate_step_list (s : Stream) (n : Nat) : (step^[n] s).list = s.list := by
  induction n with
  | zero => rfl
  | succ n ih => rw [Function.iterate_succ_apply', step_list, ih]

@[simp] theorem iterate_step_closed (s : Stream) (n : Nat) : (step^[n] s).closed = s.closed := by
  induction n with
  | zero => rfl
  | succ n ih => rw [Function.iterate_succ_apply', step_closed, ih]

theorem iterate_step_steps (list : PostingList) {n : Nat} (h : n ≤ list.postings.size + 1) :
    (step^[n] (ofList list)).steps = n := by
  induction n with
  | zero => rfl
  | succ n ih =>
    have hn := ih (by omega)
    have hle : (step^[n] (ofList list)).steps ≤ (step^[n] (ofList list)).size := by
      rw [hn, size, iterate_step_list, ofList_list]
      omega
    rw [Function.iterate_succ_apply', step_steps hle, hn]

theorem iterate_step_current? (list : PostingList) {k : Nat} (h : k ≤ list.postings.size) :
    (step^[k + 1] (ofList list)).current? = list.postings[k]? := by
  have hsteps := iterate_step_steps list (Nat.succ_le_succ h)
  simp only [current?, hsteps, iterate_step_list, ofList_list]

theorem stops_getElem? {s : Stream} {k : Nat} (h : s.steps = k + 1) :
    s.list.stops[k]? = some s.docid := by
  have hle := s.steps_le
  cases hcurrent : s.list.postings[k]? with
  | some p =>
    have hp : s.current? = some p := by simpa [current?, h] using hcurrent
    obtain ⟨hlt, -⟩ := Array.getElem?_eq_some_iff.1 hcurrent
    rw [PostingList.stops, List.getElem?_append_left (by simpa using hlt), docid_of_current? hp]
    simp [hcurrent]
  | none =>
    have hnone : s.current? = none := by simpa [current?, h] using hcurrent
    have hk : k = s.list.postings.size := by
      have := Array.getElem?_eq_none_iff.1 hcurrent
      omega
    rw [docid_eq_endOfList (by omega) hnone, hk]
    simp [PostingList.stops]

theorem docid_eq_endOfList_iff {s : Stream} (hlist : s.list.Ascends) (h : 1 ≤ s.steps) :
    s.docid = endOfList ↔ s.size < s.steps := by
  rw [← current?_eq_none_iff h]
  constructor
  · intro hend
    cases hcurrent : s.current? with
    | none => rfl
    | some p =>
      obtain ⟨k, hk⟩ : ∃ k, s.steps = k + 1 := ⟨s.steps - 1, by omega⟩
      have hp : s.list.postings.toList[k]? = some p := by simpa [current?, hk] using hcurrent
      have hbelow := hlist.below_end p (List.mem_of_getElem? hp)
      rw [docid_of_current? hcurrent] at hend
      omega
  · exact docid_eq_endOfList h

theorem steps_le_of_lt {s : Stream} {target : Int} (h : 1 ≤ s.steps) (hlt : s.docid < target)
    (hend : target ≤ endOfList) : s.steps ≤ s.size := by
  by_contra hsteps
  have hdocid := docid_eq_endOfList h ((current?_eq_none_iff h).2 (by omega))
  omega

/-- Every posting that the stream has left belongs to a document before the target. -/
def Behind (s : Stream) (target : Int) : Prop :=
  ∀ k p, k + 1 < s.steps → s.list.postings[k]? = some p → p.docid < target

theorem behind_step_ofList (list : PostingList) (target : Int) :
    (ofList list).step.Behind target := by
  intro k p hk _
  rw [step_ofList_steps] at hk
  omega

theorem Behind.mono {s : Stream} {target later : Int} (h : s.Behind target)
    (hle : target ≤ later) : s.Behind later := by
  intro k p hk hp
  have := h k p hk hp
  omega

theorem Behind.step {s : Stream} {target : Int} (h : s.Behind target) (hsteps : s.steps ≤ s.size)
    (hlt : s.docid < target) : s.step.Behind target := by
  intro k p hk hp
  rw [step_steps hsteps] at hk
  rw [step_list] at hp
  -- Only the posting that the stream stood on is left in this step.
  by_cases hlast : k + 1 = s.steps
  · have hdocid : s.docid = p.docid := docid_of_current? (by simp [current?, ← hlast, hp])
    omega
  · exact h k p (by omega) hp

@[simp] theorem advance_list (target : Int) (s : Stream) : (advance target s).list = s.list := by
  fun_induction advance target s with
  | case1 s _ ih => rw [ih, step_list]
  | case2 => rfl

@[simp] theorem advance_closed (target : Int) (s : Stream) :
    (advance target s).closed = s.closed := by
  fun_induction advance target s with
  | case1 s _ ih => rw [ih, step_closed]
  | case2 => rfl

theorem steps_le_advance (target : Int) (s : Stream) : s.steps ≤ (advance target s).steps := by
  fun_induction advance target s with
  | case1 s h ih =>
    rw [step_steps h.2] at ih
    omega
  | case2 => exact Nat.le_refl _

theorem Behind.advance {s : Stream} {target later : Int} (h : s.Behind later)
    (hle : target ≤ later) : (advance target s).Behind later := by
  fun_induction Stream.advance target s with
  | case1 s hs ih => exact ih (h.step hs.2 (by omega))
  | case2 => exact h

theorem target_le_advance (target : Int) (s : Stream) :
    target ≤ (advance target s).docid ∨ (advance target s).size < (advance target s).steps := by
  fun_induction advance target s with
  | case1 s _ ih => exact ih
  | case2 s h =>
    by_cases hlt : s.docid < target
    · exact .inr (by have := fun hle => h ⟨hlt, hle⟩; omega)
    · exact .inl (by omega)

theorem current?_advance {s : Stream} {target : Int} (hstarted : 1 ≤ s.steps)
    (h : s.Behind target) :
    (advance target s).current? =
      s.list.postings.toList.find? fun p => decide (target ≤ p.docid) := by
  have hbehind := h.advance (Int.le_refl target)
  have hreached := target_le_advance target s
  have hsteps := steps_le_advance target s
  rw [← advance_list target s]
  generalize advance target s = t at hbehind hreached hsteps ⊢
  obtain ⟨k, hk⟩ : ∃ k, t.steps = k + 1 := ⟨t.steps - 1, by omega⟩
  have hleft : ∀ j < k, ∀ p, t.list.postings.toList[j]? = some p → p.docid < target :=
    fun j hj p hp => hbehind j p (by omega) (by simpa using hp)
  cases hcurrent : t.current? with
  | none =>
    -- Behind its last document the stream has left all postings.
    have hsize := (current?_eq_none_iff (by omega)).1 hcurrent
    refine (List.find?_eq_none.2 fun p hp => ?_).symm
    obtain ⟨j, hj⟩ := List.mem_iff_getElem?.1 hp
    obtain ⟨hlt, -⟩ := List.getElem?_eq_some_iff.1 hj
    have := hleft j (by unfold size at hsize; simp at hlt; omega) p hj
    simpa using this
  | some p =>
    have hp : t.list.postings.toList[k]? = some p := by simpa [current?, hk] using hcurrent
    have hle : target ≤ p.docid := by
      rcases hreached with hle | hsize
      · rwa [docid_of_current? hcurrent] at hle
      · rw [(current?_eq_none_iff (by omega)).2 hsize] at hcurrent
        cases hcurrent
    obtain ⟨hlt, hget⟩ := List.getElem?_eq_some_iff.1 hp
    refine (List.find?_eq_some_iff_getElem.2 ⟨by simpa using hle, k, hlt, hget, ?_⟩).symm
    intro j hj
    have hlt' := hleft j hj _ (List.getElem?_eq_getElem (by omega))
    simp only [Bool.not_eq_true', decide_eq_false_iff_not]
    omega

structure Trails (s : Stream) (target : Int) : Prop where
  ascends : s.list.Ascends
  started : 1 ≤ s.steps
  behind : s.Behind target

namespace Trails

variable {s : Stream} {target later : Int}

theorem step_ofList {list : PostingList} (h : list.Ascends) (target : Int) :
    (Stream.ofList list).step.Trails target := by
  refine ⟨by rwa [Stream.step_list], ?_, Stream.behind_step_ofList list target⟩
  exact Nat.le_of_eq (Stream.step_ofList_steps list).symm

theorem mono (h : s.Trails target) (hle : target ≤ later) : s.Trails later :=
  ⟨h.ascends, h.started, h.behind.mono hle⟩

theorem advance (h : s.Trails later) (hle : target ≤ later) :
    (Stream.advance target s).Trails later := by
  refine ⟨by rw [Stream.advance_list]; exact h.ascends, ?_, h.behind.advance hle⟩
  exact Nat.le_trans h.started (Stream.steps_le_advance target s)

end Trails

theorem sighting?_advance {s : Stream} {target : Int} (hlist : s.list.Ascends)
    (hstarted : 1 ≤ s.steps) (h : s.Behind target) :
    (advance target s).sighting? target = (s.list.lookUp target).map s.list.sightingOf := by
  have hfirst := current?_advance hstarted h
  have hlookUp := PostingList.lookUp_eq_first hlist target
  rw [← hfirst] at hlookUp
  rw [hlookUp, ← advance_list target s]
  cases hcurrent : (advance target s).current? with
  | none => simp [sighting?, hcurrent]
  | some p =>
    have hend : p.docid ≠ endOfList := by
      rw [hcurrent] at hfirst
      have := hlist.below_end p (List.mem_of_find?_eq_some hfirst.symm)
      omega
    have hdocid := docid_of_current? hcurrent
    have hrequire : (advance target s).require = .ok p := by simp [require, hcurrent]
    by_cases htarget : p.docid = target
    · subst htarget
      simp [sighting?, hcurrent, hdocid, hend, positions, hrequire, Except.map, Option.filter,
        PostingList.sightingOf]
    · simp [sighting?, hcurrent, hdocid, htarget, Option.filter]

def reading (s : Stream) : Int × Option Int × Option (List Int) :=
  (s.docid, s.docLength.toOption, s.positions.toOption)

/-- The readings after each step, until a step ends the list. -/
def walk (s : Stream) : List (Int × Option Int × Option (List Int)) :=
  if s.steps ≤ s.size then
    if s.step.docid = endOfList then [] else s.step.reading :: s.step.walk
  else []
termination_by s.remaining
decreasing_by rename_i h _; exact remaining_step h

theorem current?_step {s : Stream} (h : s.steps ≤ s.size) :
    s.step.current? = s.list.postings[s.steps]? := by
  simp [current?, step_steps h]

theorem reading_of_current? {s : Stream} {p : Posting} (h : s.current? = some p) :
    s.reading = (p.docid, some p.length, if s.list.positional then some p.positions else none) := by
  have hrequire : s.require = .ok p := by simp [require, h]
  cases hpos : s.list.positional <;>
    simp [reading, docid_of_current? h, docLength, positions, hrequire, hpos, Except.map,
      Except.toOption]

theorem walk_eq (s : Stream) :
    s.walk = ((s.list.postings.toList.drop s.steps).takeWhile fun p => p.docid ≠ endOfList).map
      fun p => (p.docid, some p.length, if s.list.positional then some p.positions else none) := by
  fun_induction walk s with
  | case1 s h hend =>
    have hcurrent := current?_step h
    cases hp : s.list.postings[s.steps]? with
    | none =>
      have hsize : s.list.postings.size ≤ s.steps := Array.getElem?_eq_none_iff.1 hp
      rw [List.drop_eq_nil_of_le (by simpa using hsize)]
      rfl
    | some p =>
      rw [hp] at hcurrent
      rw [docid_of_current? hcurrent] at hend
      obtain ⟨hlt, rfl⟩ := Array.getElem?_eq_some_iff.1 hp
      rw [List.drop_eq_getElem_cons (by simpa using hlt)]
      simp [hend]
  | case2 s h hend ih =>
    have hcurrent := current?_step h
    cases hp : s.list.postings[s.steps]? with
    | none =>
      rw [hp] at hcurrent
      simp [docid, step_steps h, hp] at hend
    | some p =>
      rw [hp] at hcurrent
      rw [docid_of_current? hcurrent] at hend
      obtain ⟨hlt, rfl⟩ := Array.getElem?_eq_some_iff.1 hp
      rw [List.drop_eq_getElem_cons (by simpa using hlt), ih, reading_of_current? hcurrent,
        step_list, step_steps h]
      simp [hend]
  | case3 s h =>
    rw [List.drop_eq_nil_of_le (by unfold size at h; simp; omega)]
    rfl

end Stream
end ProximityRanking
