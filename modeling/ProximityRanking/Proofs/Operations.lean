import ProximityRanking.Proofs.Streams
/-!
A stream as something that is asked one operation after the other. Where it stands is told by the
number of its successful moves, and whether it still moves by whether it was closed
(`Stream.Stands`); all that it answers follows from these two.
-/
set_option autoImplicit false

namespace ProximityRanking

namespace PostingList

/-- The entry that a stream comes to with its n-th move. -/
def entryAt? (list : PostingList) : Nat → Option Posting
  | 0 => none
  | k + 1 => list.postings[k]?

theorem entryAt?_isSome_iff (list : PostingList) (n : Nat) :
    (list.entryAt? n).isSome = true ↔ 1 ≤ n ∧ n ≤ list.postings.size := by
  cases n with
  | zero => simp [entryAt?]
  | succ k =>
    have hlt : (list.entryAt? (k + 1)).isSome = true ↔ k < list.postings.size := by
      simp [entryAt?]
    rw [hlt]
    omega

theorem entryAt?_of_lt {list : PostingList} {n : Nat} (h : list.postings.size < n) :
    list.entryAt? n = none := by
  have hnot := list.entryAt?_isSome_iff n
  rw [← Option.not_isSome_iff_eq_none, hnot]
  omega

def entryAt (list : PostingList) (n : Nat) : Except Failure Posting :=
  match list.entryAt? n with
  | some p => .ok p
  | none => .error (.notPositioned list.term)

end PostingList

namespace Stream

inductive Operation where
  | next
  | docid
  | positions
  | docLength
  | posting
  | close
  deriving DecidableEq, Repr

inductive Answer where
  | document (docid : Int)
  | places (positions : List Int)
  | length (length : Int)
  | entry (p : Posting)
  | done
  deriving DecidableEq, Repr

/-- What an operation answers, and the stream that it leaves. -/
def perform (s : Stream) : Operation → Except Failure Answer × Stream
  | .next =>
    match s.next with
    | .ok s' => (.ok (.document s'.docid), s')
    | .error e => (.error e, s)
  | .docid => (.ok (.document s.docid), s)
  | .positions => (s.positions.map .places, s)
  | .docLength => (s.docLength.map .length, s)
  | .posting => (s.posting.map .entry, s)
  | .close => (.ok .done, s.close)

def after (s : Stream) (ops : List Operation) : Stream :=
  ops.foldl (fun s op => (s.perform op).2) s

theorem after_append (s : Stream) (ops more : List Operation) :
    s.after (ops ++ more) = (s.after ops).after more := by
  rw [after, List.foldl_append]
  rfl

/-- The number of moves that succeed. -/
def moves (s : Stream) : List Operation → Nat
  | [] => 0
  | op :: ops =>
    (match op, (s.perform op).1 with
      | .next, .ok _ => 1
      | _, _ => 0) + (s.perform op).2.moves ops

theorem moves_cons (s : Stream) (op : Operation) (ops : List Operation) :
    s.moves (op :: ops) = s.moves [op] + (s.perform op).2.moves ops := by
  simp [moves]

theorem moves_append (s : Stream) (ops more : List Operation) :
    s.moves (ops ++ more) = s.moves ops + (s.after ops).moves more := by
  induction ops generalizing s with
  | nil => simp [moves, after]
  | cons op ops ih =>
    rw [List.cons_append, moves_cons, ih, moves_cons s op ops, Nat.add_assoc]
    rfl

theorem perform_next_of_closed {s : Stream} (h : s.closed = true) :
    s.perform .next = (.error (.streamClosed s.list.term), s) := by
  simp [perform, next, h]

theorem perform_next_of_open {s : Stream} (h : s.closed = false) :
    s.perform .next = (.ok (.document s.step.docid), s.step) := by
  simp [perform, next, h]

theorem perform_of_error {s : Stream} {op : Operation} {e : Failure}
    (h : (s.perform op).1 = .error e) : (s.perform op).2 = s ∧ s.moves [op] = 0 := by
  cases op with
  | next =>
    cases hclosed : s.closed with
    | true => simp [moves, perform_next_of_closed hclosed]
    | false => simp [perform_next_of_open hclosed] at h
  | close => simp [perform] at h
  | docid => exact ⟨rfl, rfl⟩
  | positions => exact ⟨rfl, rfl⟩
  | docLength => exact ⟨rfl, rfl⟩
  | posting => exact ⟨rfl, rfl⟩

theorem perform_of_ne_next {s : Stream} {op : Operation} (h : op ≠ .next) :
    (op ≠ .close → (s.perform op).2 = s) ∧ s.moves [op] = 0 := by
  cases op with
  | next => exact absurd rfl h
  | close => exact ⟨fun hclose => absurd rfl hclose, rfl⟩
  | docid => exact ⟨fun _ => rfl, rfl⟩
  | positions => exact ⟨fun _ => rfl, rfl⟩
  | docLength => exact ⟨fun _ => rfl, rfl⟩
  | posting => exact ⟨fun _ => rfl, rfl⟩

theorem docid_le_of_steps_le {s t : Stream} (hlist : s.list.Ascends) (heq : t.list = s.list)
    (hs : 1 ≤ s.steps) (hle : s.steps ≤ t.steps) : s.docid ≤ t.docid := by
  obtain ⟨i, hi⟩ : ∃ i, s.steps = i + 1 := ⟨s.steps - 1, by omega⟩
  obtain ⟨j, hj⟩ : ∃ j, t.steps = j + 1 := ⟨t.steps - 1, by omega⟩
  have hstop := stops_getElem? hi
  have hstop' := stops_getElem? hj
  rw [heq] at hstop'
  obtain ⟨hilt, hdocid⟩ := List.getElem?_eq_some_iff.1 hstop
  obtain ⟨hjlt, hdocid'⟩ := List.getElem?_eq_some_iff.1 hstop'
  rcases Nat.lt_or_ge i j with hlt | hge
  · have hpair := List.pairwise_iff_getElem.1 hlist.pairwise_stops i j hilt hjlt hlt
    omega
  · obtain rfl : i = j := by omega
    rw [hstop] at hstop'
    exact Int.le_of_eq (Option.some.inj hstop')

structure Stands (list : PostingList) (moves : Nat) (closed : Bool) (s : Stream) : Prop where
  list_eq : s.list = list
  steps_eq : s.steps = min moves (list.postings.size + 1)
  closed_eq : s.closed = closed

theorem stands_ofList (list : PostingList) : (ofList list).Stands list 0 false :=
  ⟨rfl, (Nat.zero_min _).symm, rfl⟩

namespace Stands

variable {list : PostingList} {n : Nat} {closed : Bool} {s : Stream}

theorem step (h : s.Stands list n closed) : s.step.Stands list (n + 1) closed := by
  refine ⟨(step_list s).trans h.list_eq, ?_, (step_closed s).trans h.closed_eq⟩
  have hsteps := h.steps_eq
  have hsize : s.size = list.postings.size := congrArg (·.postings.size) h.list_eq
  by_cases hle : s.steps ≤ s.size
  · rw [step_steps hle]
    omega
  · rw [Stream.step, dif_neg hle]
    omega

theorem close (h : s.Stands list n closed) : s.close.Stands list n true :=
  ⟨h.list_eq, h.steps_eq, rfl⟩

theorem perform (h : s.Stands list n closed) (op : Operation) :
    (s.perform op).2.Stands list (n + s.moves [op]) (closed || decide (op = .close)) := by
  cases op with
  | next =>
    cases hclosed : s.closed with
    | true =>
      simpa [moves, perform_next_of_closed hclosed] using h
    | false =>
      simpa [moves, perform_next_of_open hclosed] using h.step
  | close => simpa [moves, Stream.perform] using h.close
  | docid => simpa [moves, Stream.perform] using h
  | positions => simpa [moves, Stream.perform] using h
  | docLength => simpa [moves, Stream.perform] using h
  | posting => simpa [moves, Stream.perform] using h

theorem after (h : s.Stands list n closed) (ops : List Operation) :
    (s.after ops).Stands list (n + s.moves ops) (closed || decide (.close ∈ ops)) := by
  induction ops generalizing s n closed with
  | nil => simpa [moves, Stream.after] using h
  | cons op ops ih =>
    have hrest := ih (h.perform op)
    rw [Nat.add_assoc, ← moves_cons] at hrest
    simpa [Stream.after, Bool.or_assoc, eq_comm] using hrest

theorem current?_eq (h : s.Stands list n closed) : s.current? = list.entryAt? n := by
  have hsteps := h.steps_eq
  cases n with
  | zero => simp [current?, PostingList.entryAt?, hsteps]
  | succ k =>
    by_cases hle : k ≤ list.postings.size
    · have hk : s.steps = k + 1 := by omega
      simp [current?, PostingList.entryAt?, hk, h.list_eq]
    · have hm : s.steps = list.postings.size + 1 := by omega
      have hnone : list.entryAt? (k + 1) = none := PostingList.entryAt?_of_lt (by omega)
      simp [current?, hm, h.list_eq, hnone]

theorem docid_unmoved (h : s.Stands list 0 closed) : s.docid = beforeList := by
  have hsteps : s.steps = 0 := by simpa using h.steps_eq
  simp [docid, hsteps]

theorem docid_entry (h : s.Stands list n closed) {p : Posting} (hp : list.entryAt? n = some p) :
    s.docid = p.docid :=
  docid_of_current? (h.current?_eq.trans hp)

theorem docid_behind (h : s.Stands list n closed) (hn : list.postings.size < n) :
    s.docid = endOfList := by
  have hsteps := h.steps_eq
  refine docid_eq_endOfList (by omega) (h.current?_eq.trans (PostingList.entryAt?_of_lt hn))

theorem require_eq (h : s.Stands list n closed) : s.require = list.entryAt n := by
  rw [require, h.current?_eq, h.list_eq]
  rfl

theorem docid_le {t : Stream} {k : Nat} {closed' : Bool} (hlist : list.Ascends)
    (h : s.Stands list n closed) (ht : t.Stands list k closed') (hn : 1 ≤ n) (hnk : n ≤ k) :
    s.docid ≤ t.docid := by
  have hs := h.steps_eq
  have ht' := ht.steps_eq
  refine docid_le_of_steps_le ?_ (ht.list_eq.trans h.list_eq.symm) (by omega) (by omega)
  rwa [h.list_eq]

end Stands

/-- What a stream over a list answers when it was moved a number of times. That the list has no
positions is said before the stream is looked at. -/
structure Answers (list : PostingList) (moves : Nat) (closed : Bool) (s : Stream) : Prop where
  unmoved : moves = 0 → s.docid = beforeList
  arrived : ∀ p, list.entryAt? moves = some p → s.docid = p.docid
  ended : list.postings.size < moves → s.docid = endOfList
  next_of_closed : closed = true → s.perform .next = (.error (.streamClosed list.term), s)
  next_of_open : closed = false → s.perform .next = (.ok (.document s.step.docid), s.step)
  docid : s.perform .docid = (.ok (.document s.docid), s)
  docLength : s.perform .docLength = ((list.entryAt moves).map fun p => .length p.length, s)
  positions : s.perform .positions =
    (if list.positional then (list.entryAt moves).map fun p => .places p.positions
      else .error (.missingPositions list.term), s)
  posting : s.perform .posting =
    (if list.positional then (list.entryAt moves).map .entry
      else .error (.missingPositions list.term), s)
  close : s.perform .close = (.ok .done, s.close)

theorem Stands.answers {list : PostingList} {n : Nat} {closed : Bool} {s : Stream}
    (h : s.Stands list n closed) : s.Answers list n closed where
  unmoved := by
    rintro rfl
    exact h.docid_unmoved
  arrived _ := h.docid_entry
  ended := h.docid_behind
  next_of_closed hclosed := by
    rw [← h.list_eq]
    exact perform_next_of_closed (h.closed_eq.trans hclosed)
  next_of_open hopen := perform_next_of_open (h.closed_eq.trans hopen)
  docid := rfl
  docLength := by
    rw [Stream.perform, Stream.docLength, h.require_eq]
    cases list.entryAt n <;> rfl
  positions := by
    rw [Stream.perform, Stream.positions, h.require_eq, h.list_eq]
    cases list.positional <;> cases list.entryAt n <;> rfl
  posting := by
    have hrequire : s.require = list.entryAt n := h.require_eq
    rw [Stream.perform, Stream.posting, Stream.positions, Stream.docLength, hrequire, h.list_eq]
    cases hpositional : list.positional with
    | false => rfl
    | true =>
      cases hentry : list.entryAt? n with
      | none =>
        simp only [PostingList.entryAt, hentry]
        rfl
      | some p =>
        simp only [PostingList.entryAt, hentry, h.docid_entry hentry]
        rfl
  close := rfl

theorem Stands.docid_eq_endOfList_iff {list : PostingList} (hlist : list.Ascends) {n : Nat}
    {closed : Bool} {s : Stream} (h : s.Stands list n closed) :
    s.docid = endOfList ↔ list.postings.size < n := by
  have hsteps := h.steps_eq
  cases n with
  | zero => simp [h.docid_unmoved, beforeList, endOfList]
  | succ k =>
    rw [Stream.docid_eq_endOfList_iff (by rwa [h.list_eq]) (by omega), size, h.list_eq]
    omega

/-- A stream over ascending documents moves forward only, and no failure changes it. After any
operations it stands where its successful moves have brought it: before its first document, on the
entry of the last move, or for good behind its end. `next` gives the document that the stream then
stands on, and fails exactly when the stream was closed; reading succeeds exactly on an entry, of a
closed stream too, and a list without positions is refused before the place of the stream is. -/
theorem moves_forward_only {list : PostingList} (hlist : list.Ascends) (ops : List Operation) :
    ((ofList list).after ops).Answers list ((ofList list).moves ops)
        (decide (.close ∈ ops)) ∧
      ((list.entryAt? ((ofList list).moves ops)).isSome = true ↔
        1 ≤ (ofList list).moves ops ∧ (ofList list).moves ops ≤ list.postings.size) ∧
      (((ofList list).after ops).docid = endOfList ↔
        list.postings.size < (ofList list).moves ops) ∧
      (∀ more, 1 ≤ (ofList list).moves ops →
        ((ofList list).after ops).docid ≤ ((ofList list).after (ops ++ more)).docid) ∧
      (.close ∉ ops →
        (((ofList list).after ops).perform .next).1 =
          .ok (.document ((ofList list).after (ops ++ [.next])).docid) ∧
        (ofList list).moves (ops ++ [.next]) = (ofList list).moves ops + 1) ∧
      ∀ op, (op ≠ .next ∨ ∃ e, (((ofList list).after ops).perform op).1 = .error e) →
        (ofList list).moves (ops ++ [op]) = (ofList list).moves ops ∧
        (op ≠ .close → (ofList list).after (ops ++ [op]) = (ofList list).after ops) := by
  have hstands : ∀ ops, ((ofList list).after ops).Stands list ((ofList list).moves ops)
      (decide (.close ∈ ops)) := by
    intro ops
    simpa using (stands_ofList list).after ops
  have hs := hstands ops
  refine ⟨hs.answers, list.entryAt?_isSome_iff _, hs.docid_eq_endOfList_iff hlist,
    fun more hmoved => ?_, fun hopen => ?_, fun op hop => ?_⟩
  · refine hs.docid_le hlist (hstands (ops ++ more)) hmoved ?_
    rw [moves_append]
    omega
  · have hnext := perform_next_of_open (hs.closed_eq.trans (decide_eq_false hopen))
    rw [after_append, moves_append]
    generalize (ofList list).after ops = s at hnext
    simp [after, moves, hnext]
  · rw [after_append, moves_append]
    rcases hop with hne | ⟨e, he⟩
    · obtain ⟨hkept, hmoves⟩ := perform_of_ne_next hne
      exact ⟨by rw [hmoves, Nat.add_zero], hkept⟩
    · obtain ⟨hkept, hmoves⟩ := perform_of_error he
      exact ⟨by rw [hmoves, Nat.add_zero], fun _ => hkept⟩

theorem moves_forward_only_of_two_documents :
    (PostingList.mk (some "sea") #[⟨3, 2, [0]⟩, ⟨7, 1, [0]⟩] true).Ascends ∧
      ((ofList ⟨some "sea", #[⟨3, 2, [0]⟩, ⟨7, 1, [0]⟩], true⟩).after
        [.next, .next, .close, .next]).perform .posting =
          (.ok (.entry ⟨7, 1, [0]⟩), (ofList ⟨some "sea", #[⟨3, 2, [0]⟩, ⟨7, 1, [0]⟩], true⟩).after
            [.next, .next, .close, .next]) := by
  have hlist : (PostingList.mk (some "sea") #[⟨3, 2, [0]⟩, ⟨7, 1, [0]⟩] true).Ascends :=
    ⟨by decide, by decide⟩
  obtain ⟨hanswers, -⟩ := moves_forward_only hlist [.next, .next, .close, .next]
  have hmoves : (ofList ⟨some "sea", #[⟨3, 2, [0]⟩, ⟨7, 1, [0]⟩], true⟩).moves
      [.next, .next, .close, .next] = 2 := rfl
  rw [hmoves] at hanswers
  exact ⟨hlist, hanswers.posting⟩

end Stream
end ProximityRanking
