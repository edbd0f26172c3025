import ProximityRanking.Posting
import ProximityRanking.Roster
import ProximityRanking.Scalar
import ProximityRanking.Text.Word
/-!
The positional index: documents turned inside out. Every term keeps its postings in document order,
and terms are numbered by their first occurrence. An index without positions keeps the same
postings but does not let the positions be read.
-/
set_option autoImplicit false

namespace ProximityRanking

-- Sums start from the zero of core, whatever else is imported.
attribute [local instance (high)] Zero.ofOfNat0

structure Statistics where
  documents : Nat
  tokens : Nat
  deriving DecidableEq, Repr

namespace Statistics

variable {α : Type} [Scalar α]

def averageLength (s : Statistics) : α :=
  if s.documents = 0 then 0.0 else Scalar.ofRatio s.tokens s.documents

/-- The mean number of windows of a document when every document loses `window - 1` starts, or
nothing when that is too large to be a number. -/
def averageWindows? (s : Statistics) (window : Int) : Option α :=
  if s.documents = 0 then some 0.0
  else Scalar.ratio? (s.tokens - s.documents * (window - 1)) s.documents

end Statistics

structure LexiconEntry where
  term : String
  id : Nat
  documentFrequency : Nat
  collectionFrequency : Nat
  deriving DecidableEq, Repr

/-- An index over tokenized documents, which are numbered from zero. -/
structure Index where
  ids : List String
  numbers : Std.HashMap String Nat
  lengths : Array Nat
  table : Roster (Array Posting)
  positional : Bool

namespace Index

def positionsByTerm (document : List String) : Roster (Array Int) :=
  document.zipIdx.foldl (fun r (token, i) => r.alter token fun ps => (ps.getD #[]).push i) .empty

def addDocument (table : Roster (Array Posting)) (number : Nat) (document : List String) :
    Roster (Array Posting) :=
  (positionsByTerm document).toList.foldl (fun t (token, ps) =>
    t.alter token fun list =>
      (list.getD #[]).push ⟨number, document.length, ps.toList⟩) table

def invert (documents : List (List String)) : Roster (Array Posting) :=
  documents.zipIdx.foldl (fun t (document, number) => addDocument t number document) .empty

/-- The index of a list of documents. Without external names the documents are named by their
numbers; of two documents with one name the later is found. -/
def ofDocuments (documents : List (List String)) (ids : List String) (positional : Bool) : Index :=
  let ids := if ids.isEmpty then (List.range documents.length).map toString else ids
  { ids := ids
    numbers := .ofList ids.zipIdx
    lengths := (documents.map List.length).toArray
    table := invert documents
    positional := positional }

def ofTexts (texts : List String) (ids : List String) (positional : Bool) : Index :=
  ofDocuments (texts.map Text.tokens) ids positional

def size (x : Index) : Nat :=
  x.lengths.size

def statistics (x : Index) : Statistics where
  documents := x.lengths.size
  tokens := x.lengths.toList.sum

def vocabularySize (x : Index) : Nat :=
  x.table.size

def numbersOf (x : Index) (ids : List String) : List Nat :=
  ids.filterMap (x.numbers[·]?)

def postingsOf (x : Index) (term : String) : Array Posting :=
  (x.table.find? term).getD #[]

def frequencies (x : Index) (term : String) : List (Int × Nat) :=
  (x.postingsOf term).toList.map fun p => (p.docid, p.frequency)

def lexiconEntry? (x : Index) (term : String) : Option LexiconEntry := do
  let id ← x.table.place? term
  let counts := (x.frequencies term).map Prod.snd
  return { term := term, id := id, documentFrequency := counts.length,
           collectionFrequency := counts.sum }

def postings? (x : Index) (term : String) : Option PostingList :=
  (x.table.find? term).map fun postings => ⟨some term, postings, x.positional⟩

end Index
end ProximityRanking
