import ProximityRanking.Index
import ProximityRanking.Stream
/-!
Where streams come from. A scoring pass asks a `Source` to open terms, or several words as one
synonym group, and reads the size of the collection from it. An index is a source; another source
may refuse a term or forget it, and it may look at the streams that were opened before.
-/
set_option autoImplicit false

namespace ProximityRanking

/-- The union of two ascending lists. Elements with equal keys are joined into one. -/
def uniteBy {β : Type} (key : β → Int) (join : β → β → β) : List β → List β → List β
  | [], ys => ys
  | xs, [] => xs
  | x :: xs, y :: ys =>
    if key x < key y then x :: uniteBy key join xs (y :: ys)
    else if key y < key x then y :: uniteBy key join (x :: xs) ys
    else join x y :: uniteBy key join xs ys
termination_by xs ys => xs.length + ys.length

def unitePositions : List Int → List Int → List Int :=
  uniteBy id fun p _ => p

def Posting.unite (p q : Posting) : Posting :=
  { p with positions := unitePositions p.positions q.positions }

def unitePostings : List Posting → List Posting → List Posting :=
  uniteBy Posting.docid Posting.unite

@[simp] theorem uniteBy_nil_left {β : Type} (key : β → Int) (join : β → β → β) (ys : List β) :
    uniteBy key join [] ys = ys := by
  unfold uniteBy; rfl

@[simp] theorem uniteBy_nil_right {β : Type} (key : β → Int) (join : β → β → β) (xs : List β) :
    uniteBy key join xs [] = xs := by
  cases xs <;> simp [uniteBy]

namespace Index

def indexed (x : Index) (words : List String) : List String :=
  words.eraseDups.filter x.table.contains

/-- The posting list of some words treated as one term, unless none of them is indexed. Without a
name of its own the term is named by the words that were found. -/
def merged? (x : Index) (words : List String) (name : String) : Option PostingList :=
  let found := x.indexed words
  if found.isEmpty then none
  else
    let postings := found.foldl (fun acc w => unitePostings acc (x.postingsOf w).toList) []
    some {
      term := some (if name.isEmpty then "|".intercalate found else name)
      postings := postings.toArray
      positional := x.positional }

end Index

inductive Opening where
  | term (text : String)
  | merged (words : List String) (name : String)
  deriving DecidableEq, Repr

/-- A collection whose terms can be opened. Given the streams opened so far, the postings of an
opening are found, absent, or refused. -/
structure Source where
  find : Array Stream → Opening → Except Failure (Option PostingList)
  statistics : Statistics

def Index.find? (x : Index) : Opening → Option PostingList
  | .term text => x.postings? text
  | .merged words name => x.merged? words name

def Index.source (x : Index) : Source where
  find _ opening := .ok (x.find? opening)
  statistics := x.statistics

end ProximityRanking
