import ProximityRanking.Proofs.Streams
import ProximityRanking.Proofs.Visiting
/-!
How the streams of a pass move. A pass calls `next` on each stream once before it comes to the
documents, and then, for each document that is not passed over, for as long as the stream stands
before the document. Nothing bounds this loop but the order of the documents: a stream only moves
forward, and no document lies behind the end of a stream. So all loops end, and no stream is asked
for more than its postings and its end.
-/
set_option autoImplicit false

namespace ProximityRanking

namespace Stream

/-- The loop that calls `next` while a stream stands before the target ends, and leaves the stream
on its first posting from there on, or finished, which it is only if there is none. -/
structure ComesTo (target : Int) (s s' : Stream) : Prop where
  loop : ∃ calls, s' = step^[calls] s ∧ s'.steps = s.steps + calls ∧
    (∀ k < calls, (step^[k] s).docid < target) ∧ target ≤ s'.docid
  first : s'.current? = s.list.postings.toList.find? fun p => decide (target ≤ p.docid)
  finished : s'.docid = endOfList ↔ ∀ p ∈ s.list.postings.toList, p.docid < target

/-- An open stream that some calls of `next` have brought from document to document. -/
structure CameFrom (s : Stream) (list : PostingList) : Prop where
  opened : s.closed = false
  eq_iterate : s = step^[s.steps] (ofList list)
  started : 1 ≤ s.steps
  steps_le : s.steps ≤ list.postings.size + 1
  stops : ((List.range s.steps).map fun k => (step^[k + 1] (ofList list)).docid).Pairwise (· < ·)

variable {s : Stream} {list : PostingList} {target : Int}

/-- The loop stops at the target even if nothing looks for the end of the list. -/
theorem exists_calls (h : 1 ≤ s.steps) (hend : target ≤ endOfList) :
    ∃ calls, advance target s = step^[calls] s ∧ (advance target s).steps = s.steps + calls ∧
      (∀ k < calls, (step^[k] s).docid < target) ∧ target ≤ (advance target s).docid := by
  fun_induction advance target s with
  | case1 s hs ih =>
    obtain ⟨hlt, hsteps⟩ := hs
    have hnext := step_steps hsteps
    obtain ⟨calls, heq, hcalls, hshort, harrived⟩ := ih (by omega)
    refine ⟨calls + 1, heq, by omega, fun k hk => ?_, harrived⟩
    cases k with
    | zero => exact hlt
    | succ k => exact hshort k (by omega)
  | case2 s hs =>
    have harrived : target ≤ s.docid := by
      by_contra hnot
      have hlt : s.docid < target := by omega
      exact hs ⟨hlt, steps_le_of_lt h hlt hend⟩
    exact ⟨0, rfl, rfl, fun k hk => absurd hk (Nat.not_lt_zero k), harrived⟩

theorem Trails.comesTo (h : s.Trails target) (hend : target ≤ endOfList) :
    ComesTo target s (Stream.advance target s) := by
  have hstarted := Nat.le_trans h.started (steps_le_advance target s)
  have hascends : (Stream.advance target s).list.Ascends := by
    rw [advance_list]
    exact h.ascends
  have hfirst := current?_advance h.started h.behind
  refine ⟨exists_calls h.started hend, hfirst, ?_⟩
  rw [docid_eq_endOfList_iff hascends hstarted, ← current?_eq_none_iff hstarted, hfirst,
    List.find?_eq_none]
  simp

structure Over (s : Stream) (list : PostingList) : Prop where
  list_eq : s.list = list
  opened : s.closed = false
  started : 1 ≤ s.steps

namespace Over

theorem step_ofList (list : PostingList) : (Stream.ofList list).step.Over list :=
  ⟨step_list _, step_closed _, Nat.le_of_eq (step_ofList_steps list).symm⟩

theorem advance (h : s.Over list) : (advance target s).Over list :=
  ⟨(advance_list target s).trans h.list_eq, (advance_closed target s).trans h.opened,
    Nat.le_trans h.started (steps_le_advance target s)⟩

theorem eq_iterate (h : s.Over list) : s = step^[s.steps] (ofList list) := by
  obtain ⟨l, n, closed, hle⟩ := s
  obtain ⟨rfl, rfl, -⟩ := h
  have hlist := iterate_step_list (ofList l) n
  have hclosed := iterate_step_closed (ofList l) n
  have hsteps := iterate_step_steps l hle
  rw [Stream.mk.injEq]
  exact ⟨hlist.symm, hsteps.symm, hclosed.symm⟩

theorem cameFrom (h : s.Over list) (hlist : list.Ascends) : s.CameFrom list := by
  have hle : s.steps ≤ list.postings.size + 1 := by
    rw [← h.list_eq]
    exact s.steps_le
  refine ⟨h.opened, h.eq_iterate, h.started, hle, ?_⟩
  have hstops : ((List.range s.steps).map fun k => (step^[k + 1] (ofList list)).docid) =
      list.stops.take s.steps := by
    refine List.ext_getElem? fun k => ?_
    by_cases hk : k < s.steps
    · have hstop := stops_getElem? (iterate_step_steps list (Nat.le_trans hk hle))
      rw [iterate_step_list, ofList_list] at hstop
      simp [hk, hstop]
    · rw [List.getElem?_eq_none (by simpa using hk), List.getElem?_eq_none]
      exact Nat.le_trans (List.length_take_le _ _) (Nat.not_lt.1 hk)
  rw [hstops]
  exact hlist.pairwise_stops.sublist (List.take_sublist _ _)

end Over
end Stream

namespace Progress

variable {α : Type} {rows after : List (Row α)}

theorem append_done (streams : List Stream) (further : Progress after) :
    (done streams).append further = further := by
  simp only [append, done, Nat.zero_add, List.nil_append]

theorem append_rescore (row : Row α) (score : α) (first : Progress rows)
    (further : Progress after) :
    (first.rescore row score).append further = (first.append further).rescore row score := by
  simp only [append, rescore, Nat.add_right_comm, List.cons_append]

end Progress

namespace Pass

variable {σ α : Type} [Scalar α]

/-- What a pass over some rows and more does behind the first ones: it visits the others with the
streams as they are, unless it was cut short. -/
def goOn (p : Pass σ α) (allZero : Bool) {before : List (Row α)} (after : List (Row α))
    (first : Progress before) : StateM (Session σ α) (Progress (before ++ after)) :=
  match first.failure with
  | some e => pure (first.append (.stopped after first.streams 0 e))
  | none => do return first.append (← p.visit allZero after first.streams)

variable {p : Pass σ α} {allZero : Bool} {rows after : List (Row α)} {first : Progress rows}

theorem goOn_of_some {e : Failure} (h : first.failure = some e) (s : Session σ α) :
    p.goOn allZero after first s = (first.append (.stopped after first.streams 0 e), s) := by
  unfold goOn
  rw [h]
  rfl

theorem goOn_of_none (h : first.failure = none) (s : Session σ α) :
    p.goOn allZero after first s =
      (first.append (p.visit allZero after first.streams s).1,
        (p.visit allZero after first.streams s).2) := by
  unfold goOn
  rw [h]
  rfl

/-- Where one row more changes neither the streams nor the failure, it may be put in front before
the pass goes on or afterwards. -/
theorem goOn_cons {row : Row α} {first' : Progress (row :: rows)}
    {f : Progress (rows ++ after) → Progress (row :: (rows ++ after))}
    (hfailure : first'.failure = first.failure) (hstreams : first'.streams = first.streams)
    (hcons : ∀ further : Progress after, first'.append further = f (first.append further))
    (s : Session σ α) :
    p.goOn allZero after first' s =
      (f (p.goOn allZero after first s).1, (p.goOn allZero after first s).2) := by
  cases hfirst : first.failure with
  | some e => rw [goOn_of_some hfirst, goOn_of_some (hfailure.trans hfirst), hcons, hstreams]
  | none => rw [goOn_of_none hfirst, goOn_of_none (hfailure.trans hfirst), hcons, hstreams]

theorem goOn_keep (row : Row α) (first : Progress rows) (s : Session σ α) :
    p.goOn allZero after (first.keep row) s =
      ((p.goOn allZero after first s).1.keep row, (p.goOn allZero after first s).2) :=
  goOn_cons rfl rfl (fun _ => rfl) s

theorem goOn_rescore (row : Row α) (score : α) (first : Progress rows) (s : Session σ α) :
    p.goOn allZero after (first.rescore row score) s =
      ((p.goOn allZero after first s).1.rescore row score, (p.goOn allZero after first s).2) :=
  goOn_cons rfl rfl (Progress.append_rescore row score first) s

theorem visit_rows_append (p : Pass σ α) (allZero : Bool) (before after : List (Row α))
    (streams : List Stream) :
    p.visit allZero (before ++ after) streams =
      p.visit allZero before streams >>= p.goOn allZero after := by
  funext s
  induction before generalizing streams s with
  | nil =>
    have hdone : (Progress.done streams : Progress ([] : List (Row α))).failure = none := rfl
    change p.visit allZero after streams s = p.goOn allZero after (.done streams) s
    rw [goOn_of_none hdone, Progress.append_done]
    rfl
  | cons row rest ih =>
    refine (p.visit_cons allZero row (rest ++ after) streams s).trans ?_
    change _ = p.goOn allZero after (p.visit allZero (row :: rest) streams s).1
      (p.visit allZero (row :: rest) streams s).2
    rw [visit_cons]
    rcases p.meet allZero row streams with ⟨streams', slots⟩
    cases slots with
    | none =>
      simp only [ih, goOn_keep]
      rfl
    | some slots =>
      rcases hboost : (p.boost slots).exec s with ⟨outcome, s'⟩
      cases outcome with
      | error e =>
        simp only [hboost]
        rfl
      | ok x =>
        simp only [hboost, ih, goOn_rescore]
        rfl

theorem visit_streams_induction (p : Pass σ α) (allZero : Bool) (P : List Stream → Prop)
    {rows : List (Row α)}
    (hstep : ∀ row ∈ rows, ∀ streams, P streams → P (streams.map (Stream.advance row.docid)))
    {streams : List Stream} (h : P streams) (s : Session σ α) :
    P (p.visit allZero rows streams s).1.streams := by
  induction rows generalizing streams s with
  | nil => exact h
  | cons row rest ih =>
    obtain ⟨hrow, hrest⟩ := List.forall_mem_cons.1 hstep
    have hmet : P (p.meet allZero row streams).1 := by
      unfold meet
      split
      · exact h
      · exact hrow streams h
    rw [visit_cons]
    rcases hmeet : p.meet allZero row streams with ⟨streams', slots⟩
    rw [hmeet] at hmet
    cases slots with
    | none => exact ih hrest hmet s
    | some slots =>
      rcases hboost : (p.boost slots).exec s with ⟨outcome, s'⟩
      cases outcome with
      | error e => simpa only [hboost, Progress.stopped] using hmet
      | ok x => simpa only [hboost, Progress.rescore] using ih hrest hmet s'

theorem streams_visit_singleton (p : Pass σ α) (allZero : Bool) (row : Row α)
    (streams : List Stream) (s : Session σ α) :
    (p.visit allZero [row] streams s).1.streams = (p.meet allZero row streams).1 := by
  rw [visit_cons]
  rcases p.meet allZero row streams with ⟨streams', slots⟩
  cases slots with
  | none => rfl
  | some slots =>
    rcases hboost : (p.boost slots).exec s with ⟨outcome, s'⟩
    cases outcome <;> simp only [hboost] <;> rfl

/-- The streams of a pass over ascending documents only move forward, and each loop that moves them
ends. Wherever the documents are cut in two, the pass goes on with the streams as the first ones
have left them, and so document by document: one that is passed over moves no stream, and behind any
other each stream has come to its first posting from there on. Over a whole pass, cut short or not,
a stream comes to ascending documents, so `next` is called at most once for each of its postings and
for its end. -/
theorem streams_move_forward (p : Pass σ α) (allZero : Bool) {lists : List PostingList}
    (hlists : ∀ list ∈ lists, list.Ascends) (before after : List (Row α))
    (hrows : (before ++ after).Pairwise fun a b => a.docid ≤ b.docid)
    (hend : ∀ row ∈ before ++ after, row.docid ≤ endOfList) (s : Session σ α) :
    let start := lists.map fun list => (Stream.ofList list).step
    let first := (p.visit allZero before start s).1
    p.visit allZero (before ++ after) start =
        p.visit allZero before start >>= p.goOn allZero after ∧
      List.Forall₂ Stream.CameFrom (p.visit allZero (before ++ after) start s).1.streams lists ∧
      ∀ row rest, after = row :: rest → first.failure = none →
        let further := (p.visit allZero (before ++ [row]) start s).1
        (isPruned allZero row = true → further.streams = first.streams) ∧
        (isPruned allZero row = false →
          List.Forall₂ (Stream.ComesTo row.docid) first.streams further.streams) := by
  intro start first
  refine ⟨p.visit_rows_append allZero before after start, ?_, ?_⟩
  · have hstart : List.Forall₂ Stream.Over start lists := by
      rw [List.forall₂_map_left_iff, List.forall₂_same]
      exact fun list _ => Stream.Over.step_ofList list
    have hover : List.Forall₂ Stream.Over (p.visit allZero (before ++ after) start s).1.streams
        lists := by
      refine p.visit_streams_induction allZero (List.Forall₂ Stream.Over · lists)
        (fun row _ streams h => ?_) hstart s
      rw [List.forall₂_map_left_iff]
      exact h.imp fun t list ht => ht.advance
    have hboth := ((List.forall₂_and_left _ _).2 ⟨hlists, hover.flip⟩).flip
    exact hboth.imp fun t list ⟨hlist, ht⟩ => ht.cameFrom hlist
  · rintro row rest rfl hfailure
    -- Nothing is left by the streams that lies at or behind the next document.
    have htrails : ∀ t ∈ first.streams, t.Trails row.docid := by
      obtain ⟨-, -, hbefore⟩ := List.pairwise_append.1 hrows
      refine p.visit_streams_induction allZero (fun streams => ∀ t ∈ streams, t.Trails row.docid)
        (fun earlier hearlier streams h => ?_) ?_ s
      · have hle := hbefore earlier hearlier row (by simp)
        exact List.forall_mem_map.2 fun t ht => (h t ht).advance hle
      · exact List.forall_mem_map.2 fun list hlist =>
          Stream.Trails.step_ofList (hlists list hlist) row.docid
    have hfurther : (p.visit allZero (before ++ [row]) start s).1.streams =
        (p.meet allZero row first.streams).1 := by
      rw [visit_rows_append]
      change (p.goOn allZero [row] first (p.visit allZero before start s).2).1.streams = _
      rw [goOn_of_none hfailure]
      exact streams_visit_singleton p allZero row first.streams _
    dsimp only
    rw [hfurther, meet]
    refine ⟨fun hpruned => ?_, fun hkept => ?_⟩
    · rw [if_pos hpruned]
    · rw [if_neg (by simp [hkept]), List.forall₂_map_right_iff, List.forall₂_same]
      exact fun t ht => (htrails t ht).comesTo (hend row (by simp))

def farRows : List (Row Float) :=
  [⟨4, -1.0, 0⟩, ⟨endOfList, 1.0, 0⟩]

def oneByOne : Pass Unit Float where
  rescorer := ⟨⟨"one", fun _ => pure (), fun _ _ => pure 1.0⟩, ⟨fun _ _ => .ok 1⟩⟩
  settings := .neighbours
  pairing := .adjacent
  weights := [1.0, 1.0]

theorem streams_move_forward_to_end :
    let lists : List PostingList := [⟨some "a", #[⟨0, 2, [0]⟩, ⟨5, 3, [1]⟩], true⟩,
      ⟨some "b", #[], true⟩]
    let start := lists.map fun list => (Stream.ofList list).step
    let behind rows := (oneByOne.visit false rows start (.start Float ())).1.streams
    behind (farRows.take 1) = start ∧
      List.Forall₂ (fun s n => s.docid = endOfList ∧ s.steps ≤ n) (behind farRows) [3, 1] := by
  intro lists start behind
  have hlists : ∀ list ∈ lists, list.Ascends := by
    intro list hlist
    simp only [lists, List.mem_cons, List.not_mem_nil, or_false] at hlist
    rcases hlist with rfl | rfl
    · exact ⟨by decide, by decide⟩
    · exact ⟨.nil, by simp⟩
  have hrows : farRows.Pairwise fun a b => a.docid ≤ b.docid := by
    simp [farRows, endOfList]
  have hend : ∀ row ∈ farRows, row.docid ≤ endOfList := by
    simp [farRows, endOfList]
  have hpruned : isPruned false (⟨4, -1.0, 0⟩ : Row Float) = true := by decide +kernel
  have hkept : isPruned false (⟨endOfList, 1.0, 0⟩ : Row Float) = false := by decide +kernel
  have hstay : behind (farRows.take 1) = start := by
    obtain ⟨-, -, hrow⟩ :=
      oneByOne.streams_move_forward false hlists [] farRows hrows hend (.start Float ())
    exact (hrow _ _ rfl rfl).1 hpruned
  obtain ⟨-, hwhole, hrow⟩ := oneByOne.streams_move_forward false hlists (farRows.take 1)
    (farRows.drop 1) hrows hend (.start Float ())
  have hunfailing : (oneByOne.visit false (farRows.take 1) start (.start Float ())).1.failure =
      none := by
    rw [farRows, List.take_succ_cons, visit_cons, meet, if_pos hpruned]
    rfl
  have hcome := (hrow _ _ rfl hunfailing).2 hkept
  change List.Forall₂ _ (behind (farRows.take 1)) (behind farRows) at hcome
  rw [hstay] at hcome
  change List.Forall₂ _ (behind farRows) lists at hwhole
  refine ⟨hstay, ?_⟩
  generalize behind farRows = last at hcome hwhole ⊢
  simp only [start, lists, List.map_cons, List.map_nil] at hcome hwhole
  obtain _ | ⟨ha, _ | ⟨hb, _ | _⟩⟩ := hcome
  obtain _ | ⟨hla, _ | ⟨hlb, _⟩⟩ := hwhole
  refine .cons ⟨ha.finished.2 ?_, hla.steps_le⟩ (.cons ⟨hb.finished.2 ?_, hlb.steps_le⟩ .nil)
  · rw [Stream.step_list]
    decide
  · rw [Stream.step_list]
    simp

end Pass
end ProximityRanking
