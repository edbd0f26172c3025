import ProximityRanking.Number.Binary64
import ProximityRanking.Scalar
/-!
Result sets: the candidate documents of a query, each with its score and the number of query terms
in it. No document comes twice. Both sorts move whole rows and keep the order of rows that they do
not tell apart.
-/
set_option autoImplicit false

namespace ProximityRanking

-- Powers are those of core whatever else is imported; that takes exponents of a known type.
attribute [local instance (high)] instPowNat

/-- The first elements of a list: all of them without a limit, and all but the last `n` for the
limit `-n`. -/
def cut {β : Type} (limit : Option Int) (l : List β) : List β :=
  match limit with
  | none => l
  | some k => l.take (if k < 0 then l.length + k else k).toNat

theorem cut_sublist {β : Type} (limit : Option Int) (l : List β) : (cut limit l).Sublist l := by
  unfold cut
  split
  · exact List.Sublist.refl l
  · exact List.take_sublist _ _

structure Row (α : Type) where
  docid : Int
  score : α
  occurrences : Int16

structure ResultSet (α : Type) where
  rows : List (Row α)
  nodup_docids : (rows.map Row.docid).Nodup

namespace ResultSet

inductive Fault where
  | integerTooLarge
  | occurrencesOutOfRange (n : Int)
  | columnLengths
  | repeatedDocid
  | unknownDocid (docid : Int)
  | rowOutOfRange (place : Int) (size : Nat)
  | notAPlace
  deriving DecidableEq, Repr

def Fault.message : Fault → String
  | .integerTooLarge => "Python int too large to convert to C long"
  | .occurrencesOutOfRange n => "Python integer " ++ toString n ++ " out of bounds for int16"
  | .columnLengths => "docids, scores and occurrences must have the same length"
  | .repeatedDocid => "docids must be unique"
  | .unknownDocid docid => toString docid
  | .rowOutOfRange place size =>
    "index " ++ toString place ++ " is out of bounds for axis 0 with size " ++ toString size
  | .notAPlace =>
    "only integers, slices (`:`), ellipsis (`...`), numpy.newaxis (`None`) and integer or " ++
      "boolean arrays are valid indices"

variable {α : Type}

/-- Puts columns side by side. Document numbers have 64 bits and numbers of occurrences 16. The
ranges are checked first, then the lengths, then that no document comes twice. Without a column of
occurrences they are zero. -/
def ofColumns (docids : List Int) (scores : List α) (occurrences : Option (List Int)) :
    Except Fault (ResultSet α) :=
  let occurrences := occurrences.getD (docids.map fun _ => 0)
  if !docids.all (fitsBits 64) then .error .integerTooLarge
  else
    match occurrences.find? fun n => !fitsBits 16 n with
    | some n => .error (if fitsBits 64 n then .occurrencesOutOfRange n else .integerTooLarge)
    | none =>
      if docids.length ≠ scores.length ∨ scores.length ≠ occurrences.length then
        .error .columnLengths
      else
        let rows := List.zipWith (fun docid (score, n) => ⟨docid, score, Int16.ofInt n⟩) docids
          (scores.zip occurrences)
        if h : (rows.map Row.docid).Nodup then .ok ⟨rows, h⟩ else .error .repeatedDocid

def docids (r : ResultSet α) : List Int :=
  r.rows.map Row.docid

def size (r : ResultSet α) : Nat :=
  r.rows.length

def reorder (r : ResultSet α) (rows : List (Row α)) (h : rows.Perm r.rows) : ResultSet α :=
  ⟨rows, (h.map Row.docid).nodup_iff.2 r.nodup_docids⟩

def sortByDocid (r : ResultSet α) : ResultSet α :=
  r.reorder (r.rows.mergeSort fun a b => a.docid ≤ b.docid) (List.mergeSort_perm _ _)

/-- Descending by score; equal scores keep their order, and what is not a number comes last. -/
def sortByScore [Scalar α] (r : ResultSet α) : ResultSet α :=
  r.reorder (r.rows.mergeSort fun a b => Scalar.ranksBefore a.score b.score)
    (List.mergeSort_perm _ _)

def mapScores (r : ResultSet α) (f : α → α) : ResultSet α where
  rows := r.rows.map fun row => { row with score := f row.score }
  nodup_docids := by simpa [List.map_map, Function.comp_def] using r.nodup_docids

def scoreOf (r : ResultSet α) (docid : Int) : Except Fault α :=
  match r.rows.find? (·.docid == docid) with
  | some row => .ok row.score
  | none => .error (.unknownDocid docid)

def putScore (r : ResultSet α) (place : Nat) (score : α) : ResultSet α where
  rows := r.rows.modify place fun row => { row with score := score }
  nodup_docids := by
    have h : (r.rows.modify place fun row => { row with score := score }).map Row.docid
        = r.rows.map Row.docid := by
      apply List.ext_getElem? fun i => ?_
      simp only [List.getElem?_map, List.getElem?_modify]
      cases r.rows[i]? with
      | none => rfl
      | some row => by_cases h : place = i <;> simp [h]
    rw [h]
    exact r.nodup_docids

/-- Replaces the score of the row at a place; negative places count from the end. A place has 64
bits. One that takes all 64 without a sign is still an integer that is too large, and what is beyond
that is no place at all. -/
def setScore (r : ResultSet α) (place : Int) (score : α) : Except Fault (ResultSet α) :=
  let fromStart := if place < 0 then place + r.size else place
  if 0 ≤ fromStart ∧ fromStart < r.size then .ok (r.putScore fromStart.toNat score)
  else if fitsBits 64 place then .error (.rowOutOfRange place r.size)
  else if 0 ≤ place ∧ place < 2 ^ (64 : Nat) then .error .integerTooLarge
  else .error .notAPlace

def render (r : ResultSet α) : String :=
  "ResultSet(size=" ++ toString r.size ++ ")"

end ResultSet
end ProximityRanking
