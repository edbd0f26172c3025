import ProximityRanking.Failure
import ProximityRanking.ResultSet
import ProximityRanking.Stream
/-!
How a scoring pass ends, and what it has made of its rows and streams as far as it got. Scores may
change; that the documents and their order do not is part of the type.
-/
set_option autoImplicit false

namespace ProximityRanking

/-- What became of a pass: it did nothing, it was cut short by a failure, or it was done in full. -/
inductive Status where
  | skipped
  | cutShort
  | applied
  deriving DecidableEq, Repr

def Status.name : Status → String
  | .skipped => "skipped"
  | .cutShort => "partial"
  | .applied => "applied"

/-- The end of a pass: its status, the number of documents that got as far as their pairs, and the
failure that cut it short. -/
structure Outcome where
  status : Status
  altered : Nat
  failure : Option Failure
  deriving DecidableEq, Repr

namespace Outcome

def skipped : Outcome := ⟨.skipped, 0, none⟩

def ended (altered : Nat) : Option Failure → Outcome
  | none => ⟨.applied, altered, none⟩
  | some e => ⟨.cutShort, altered, some e⟩

def modified (o : Outcome) : Bool :=
  o.status != .skipped

end Outcome

variable {α : Type}

/-- A pass over some rows, as far as it got, with the streams where it has left them. The documents
are those of the rows, in their order. -/
structure Progress (rows : List (Row α)) where
  rescored : List (Row α)
  docids_eq : rescored.map Row.docid = rows.map Row.docid
  streams : List Stream
  altered : Nat
  failure : Option Failure

namespace Progress

def done (streams : List Stream) : Progress ([] : List (Row α)) :=
  ⟨[], rfl, streams, 0, none⟩

def stopped (rows : List (Row α)) (streams : List Stream) (altered : Nat) (e : Failure) :
    Progress rows :=
  ⟨rows, rfl, streams, altered, some e⟩

def keep (row : Row α) {rest : List (Row α)} (p : Progress rest) : Progress (row :: rest) where
  rescored := row :: p.rescored
  docids_eq := by simp [p.docids_eq]
  streams := p.streams
  altered := p.altered
  failure := p.failure

def rescore (row : Row α) (score : α) {rest : List (Row α)} (p : Progress rest) :
    Progress (row :: rest) where
  rescored := { row with score := score } :: p.rescored
  docids_eq := by simp [p.docids_eq]
  streams := p.streams
  altered := p.altered + 1
  failure := p.failure

def append {before after : List (Row α)} (first : Progress before) (further : Progress after) :
    Progress (before ++ after) where
  rescored := first.rescored ++ further.rescored
  docids_eq := by simp [first.docids_eq, further.docids_eq]
  streams := further.streams
  altered := first.altered + further.altered
  failure := further.failure

end Progress
end ProximityRanking
