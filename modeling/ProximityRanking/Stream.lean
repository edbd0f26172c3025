import ProximityRanking.Posting
import ProximityRanking.Failure
/-!
Streams over postings. A stream starts before its first document, moves forward only, and stays
behind its last document once it is there. It is a value: moving gives a new stream, and a failed
read leaves the old one as it was. A sighting is one term in one document, as a scored pair sees it;
the positions may be missing, which shows only when they are read.
-/
set_option autoImplicit false

namespace ProximityRanking

-- Powers are those of core whatever else is imported; that takes exponents of a known type.
attribute [local instance (high)] instPowNat

/-- The document number of a stream behind its last document; no document reaches it. -/
def endOfList : Int := 2 ^ (63 : Nat) - 1

def beforeList : Int := -1

/-- A posting list with the number of steps made: none before the first document, and one more than
there are postings behind the last. -/
structure Stream where
  list : PostingList
  steps : Nat
  closed : Bool
  steps_le : steps ≤ list.postings.size + 1

namespace Stream

def ofList (list : PostingList) : Stream where
  list := list
  steps := 0
  closed := false
  steps_le := Nat.zero_le _

def size (s : Stream) : Nat :=
  s.list.postings.size

def current? (s : Stream) : Option Posting :=
  match s.steps with
  | 0 => none
  | k + 1 => s.list.postings[k]?

def docid (s : Stream) : Int :=
  match s.steps with
  | 0 => beforeList
  | k + 1 => (s.list.postings[k]?.map Posting.docid).getD endOfList

def require (s : Stream) : Except Failure Posting :=
  match s.current? with
  | some p => .ok p
  | none => .error (.notPositioned s.list.term)

def docLength (s : Stream) : Except Failure Int :=
  s.require.map Posting.length

/-- The positions in the current document. That the list has none is said before the stream is
looked at. -/
def positions (s : Stream) : Except Failure (List Int) :=
  if s.list.positional then s.require.map Posting.positions
  else .error (.missingPositions s.list.term)

def posting (s : Stream) : Except Failure Posting := do
  let positions ← s.positions
  let length ← s.docLength
  return { docid := s.docid, length := length, positions := positions }

def step (s : Stream) : Stream :=
  if h : s.steps ≤ s.size then
    { s with steps := s.steps + 1, steps_le := Nat.succ_le_succ h }
  else s

def next (s : Stream) : Except Failure Stream :=
  if s.closed then .error (.streamClosed s.list.term) else .ok s.step

def close (s : Stream) : Stream :=
  { s with closed := true }

def remaining (s : Stream) : Nat :=
  s.size + 1 - s.steps

@[simp] theorem step_list (s : Stream) : s.step.list = s.list := by
  unfold step; split <;> rfl

@[simp] theorem step_closed (s : Stream) : s.step.closed = s.closed := by
  unfold step; split <;> rfl

theorem step_steps {s : Stream} (h : s.steps ≤ s.size) : s.step.steps = s.steps + 1 := by
  simp [step, h]

theorem remaining_step {s : Stream} (h : s.steps ≤ s.size) :
    s.step.remaining < s.remaining := by
  have hsteps := step_steps h
  unfold size at h
  simp only [remaining, size, step_list, hsteps]
  omega

def advance (target : Int) (s : Stream) : Stream :=
  if s.docid < target ∧ s.steps ≤ s.size then advance target s.step else s
termination_by s.remaining
decreasing_by exact remaining_step (by rename_i h; exact h.2)

def render (s : Stream) : String :=
  "PostingStream(" ++ Text.quotedOrNone s.list.term ++ ", df=" ++ toString s.size ++ ", docid=" ++
    toString s.docid ++ ")"

end Stream

structure Sighting where
  docid : Int
  length : Int
  positions : Except Failure (List Int)

def Sighting.ofPosting (p : Posting) : Sighting where
  docid := p.docid
  length := p.length
  positions := .ok p.positions

/-- The term of a stream in a document: there is one exactly when the stream stands on the document,
and behind its last document a stream stands on none. -/
def Stream.sighting? (s : Stream) (docid : Int) : Option Sighting :=
  match s.current? with
  | some p =>
    if s.docid = docid ∧ s.docid ≠ endOfList then
      some { docid := p.docid, length := p.length, positions := s.positions }
    else none
  | none => none

end ProximityRanking
