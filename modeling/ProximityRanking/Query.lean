import ProximityRanking.Text.Class
import ProximityRanking.Text.Quoted
import ProximityRanking.Roster
import ProximityRanking.Scalar
import ProximityRanking.Number.Decimal
/-!
Queries: the distinct terms in the order in which they first come. A term that comes again adds its
weight to the first one of its text. Besides plain terms and synonym groups a query may hold pseudo
terms, which stand for windows that an earlier stage counted; they are told by their kind or by a
marker in their text.
-/
set_option autoImplicit false

namespace ProximityRanking

inductive TermKind where
  | base
  | synonym
  | window
  | orderedWindow
  | unorderedWindow
  deriving DecidableEq, Repr

namespace TermKind

def name : TermKind → String
  | .base => "base"
  | .synonym => "synonym"
  | .window => "window"
  | .orderedWindow => "ordered_window"
  | .unorderedWindow => "unordered_window"

def named? (s : String) : Option TermKind :=
  [base, synonym, window, orderedWindow, unorderedWindow].find? (·.name == s)

def refusal (s : String) : String :=
  Text.quoted s ++ " is not a valid TermKind"

def isWindow : TermKind → Bool
  | .window | .orderedWindow | .unorderedWindow => true
  | .base | .synonym => false

end TermKind

structure QueryTerm (α : Type) where
  text : String
  weight : α
  kind : TermKind
  alternatives : List String

namespace QueryTerm

def synonym {α : Type} (alternatives : List String) (weight : α) : QueryTerm α where
  text := "#syn(" ++ " ".intercalate alternatives ++ ")"
  weight := weight
  kind := .synonym
  alternatives := alternatives

/-- A hash sign with a digit right behind it, or with `uw` or `ow` and a digit. -/
def startsMarker : List Char → Bool
  | '#' :: 'u' :: 'w' :: c :: _ => Text.isDigit c
  | '#' :: 'o' :: 'w' :: c :: _ => Text.isDigit c
  | '#' :: c :: _ => Text.isDigit c
  | _ => false

def hasMarker : List Char → Bool
  | [] => false
  | c :: rest => startsMarker (c :: rest) || hasMarker rest

/-- A pseudo term has the kind of a window or a marker in the first line of its text. -/
def isPseudo {α : Type} (t : QueryTerm α) : Bool :=
  t.kind.isWindow || hasMarker (t.text.toList.takeWhile (· ≠ '\n'))

end QueryTerm

/-- A query: its terms by their texts, and the name it may have. -/
structure Query (α : Type) where
  id : Option String
  table : Roster (QueryTerm α)

namespace Query

variable {α : Type}

def empty (id : Option String) : Query α where
  id := id
  table := .empty

def terms (q : Query α) : List (QueryTerm α) :=
  q.table.values

/-- Adds a term, or its weight to the term of the same text. -/
def add [Scalar α] (q : Query α) (t : QueryTerm α) : Query α :=
  { q with table := q.table.alter t.text fun
      | none => t
      | some first => { first with weight := first.weight + t.weight } }

def ofTerms [Scalar α] (id : Option String) (terms : List (QueryTerm α)) : Query α :=
  terms.foldl add (empty id)

def ofTokens [Scalar α] (id : Option String) (tokens : List String) : Query α :=
  ofTerms id (tokens.map fun token => ⟨token, 1.0, .base, []⟩)

def filtered [Scalar α] (q : Query α) : Query α :=
  ofTerms q.id (q.terms.filter fun t => !t.isPseudo)

def render (q : Query Float) : String :=
  let inner := ", ".intercalate (q.terms.map fun t => t.text ++ "^" ++ general t.weight)
  "MatchingQueryTerms(query_id=" ++ Text.quotedOrNone q.id ++ ", [" ++ inner ++ "])"

end Query
end ProximityRanking
