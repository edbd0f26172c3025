import ProximityRanking.Number.Binary64
/-!
Postings of a term: the documents it occurs in, with their lengths and the positions of the term.
-/
set_option autoImplicit false

namespace ProximityRanking

structure Posting where
  docid : Int
  length : Int
  positions : List Int
  deriving DecidableEq, Repr

namespace Posting

inductive Fault where
  | integerTooLarge
  | lengths
  | positions
  deriving DecidableEq, Repr

def Fault.message : Fault → String
  | .integerTooLarge => "Python int too large to convert to C long"
  | .lengths => "docids and doc_lengths must have the same length"
  | .positions => "positions must have one entry per document"

def make (docid length : Int) (positions : List Int) : Except Fault Posting :=
  if positions.all (fitsBits 64) then .ok ⟨docid, length, positions⟩ else .error .integerTooLarge

def frequency (p : Posting) : Nat :=
  p.positions.length

end Posting

/-- The postings of a term in document order; without the flag the positions may not be read. -/
structure PostingList where
  term : Option String
  postings : Array Posting
  positional : Bool

namespace PostingList

/-- Puts the columns of documents, lengths and positions side by side. All numbers have 64 bits,
which is checked first. -/
def ofColumns (term : Option String) (docids lengths : List Int)
    (positions : Option (List (List Int))) : Except Posting.Fault PostingList :=
  let rows (positions : List (List Int)) : Array Posting :=
    (List.zipWith (fun docid (length, ps) => ⟨docid, length, ps⟩) docids
      (lengths.zip positions)).toArray
  let numbers := docids ++ lengths ++ (positions.getD []).flatten
  if !numbers.all (fitsBits 64) then .error .integerTooLarge
  else if docids.length ≠ lengths.length then .error .lengths
  else
    match positions with
    | none => .ok ⟨term, rows (docids.map fun _ => []), false⟩
    | some positions =>
      if positions.length ≠ docids.length then .error .positions
      else .ok ⟨term, rows positions, true⟩

end PostingList
end ProximityRanking
