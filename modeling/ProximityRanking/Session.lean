import ProximityRanking.Source
import ProximityRanking.Event
import ProximityRanking.Window
/-!
Sessions: the state that outlives a failure. A session keeps every stream that was handed out, the
answers that a counter gave, the reports, and the state of the scoring function. Computations in it
are of type `SessionM`; they end with a value or a `Failure`, and with the session they left behind
in either case.
-/
set_option autoImplicit false

namespace ProximityRanking

structure CountRequest where
  pairing : Pairing
  first : List Int
  second : List Int
  window : Int
  length : Int
  deriving DecidableEq, Repr

/-- A counter of windows. It may look at the requests that it answered before. -/
structure PairCounter where
  count : Array CountRequest → CountRequest → Except Failure Int

def PairCounter.windows [Table.Memory] : PairCounter where
  count _ r := Window.count r.pairing r.first r.second r.window r.length

/-- The state of a session: `opened` in the order of opening, `answered` and `events` in the order
of time. -/
structure Session (σ α : Type) where
  scorer : σ
  opened : Array Stream
  answered : Array CountRequest
  events : Array (Event α)

def Session.start {σ : Type} (α : Type) (scorer : σ) : Session σ α where
  scorer := scorer
  opened := #[]
  answered := #[]
  events := #[]

namespace Session

variable {σ α : Type}

def report (e : Event α) (s : Session σ α) : Session σ α :=
  { s with events := s.events.push e }

def handOut (list : PostingList) (s : Session σ α) : Session σ α :=
  { s with opened := s.opened.push (.ofList list) }

def closeStream (place : Nat) (s : Session σ α) : Session σ α :=
  { s with opened := s.opened.modify place Stream.close }

/-- The stream at a place, or an empty one where none was handed out. -/
def stream (s : Session σ α) (place : Nat) : Stream :=
  s.opened.getD place (.ofList ⟨none, #[], false⟩)

end Session

abbrev SessionM (σ α : Type) := ExceptT Failure (StateM (Session σ α))

namespace SessionM

variable {σ α β γ : Type}

def exec (m : SessionM σ α β) (s : Session σ α) : Except Failure β × Session σ α :=
  m s

theorem exec_bind (m : SessionM σ α β) (f : β → SessionM σ α γ) (s : Session σ α) :
    (m >>= f).exec s =
      match m.exec s with
      | (.ok x, s') => (f x).exec s'
      | (.error e, s') => (.error e, s') := by
  simp only [exec, bind, ExceptT.bind, ExceptT.mk, StateT.bind]
  cases h : m s with
  | mk r s' => cases r <;> rfl

@[simp] theorem exec_pure (x : β) (s : Session σ α) :
    (pure x : SessionM σ α β).exec s = (.ok x, s) := rfl

def ofExcept (r : Except Failure β) : SessionM σ α β :=
  match r with
  | .ok x => pure x
  | .error e => throw e

def ofOption (e : Failure) (r : Option β) : SessionM σ α β :=
  match r with
  | some x => pure x
  | none => throw e

def openStream (source : Source) (opening : Opening) : SessionM σ α (Option Nat) := do
  let s ← get
  match ← ofExcept (source.find s.opened opening) with
  | none => pure none
  | some list =>
    set (s.handOut list)
    pure (some s.opened.size)

def count (counter : PairCounter) (request : CountRequest) : SessionM σ α Int := do
  let s ← get
  let n ← ofExcept (counter.count s.answered request)
  set { s with answered := s.answered.push request }
  pure n

def onScorer (m : ExceptT Failure (StateM σ) β) : SessionM σ α β :=
  fun s =>
    let (r, scorer) := m s.scorer
    (r, { s with scorer := scorer })

/-- Runs a second computation after the first, whether that failed or not. -/
def andFinally (m : SessionM σ α β) (after : SessionM σ α Unit) : SessionM σ α β :=
  fun s =>
    let (r, s') := m s
    let (r', s'') := after s'
    (r' >>= fun _ => r, s'')

end SessionM
end ProximityRanking
