import ProximityRanking.Query
import ProximityRanking.Session
/-!
Phrases: the opened terms of a query. Each query term asks for one or more openings (`requests`);
what is not found is left out, and what comes again under the same text adds its weight to the
first. When an opening fails the streams kept so far are closed.
-/
set_option autoImplicit false

namespace ProximityRanking

structure OpeningRequest (α : Type) where
  text : String
  weight : α
  opening : Opening

/-- The openings of a query term. A synonym group is opened word by word, each with the weight of
the group, or as one merged term. -/
def QueryTerm.requests {α : Type} (splitSynonyms : Bool) (t : QueryTerm α) :
    List (OpeningRequest α) :=
  if t.kind = .synonym then
    if splitSynonyms then t.alternatives.map fun word => ⟨word, t.weight, .term word⟩
    else [⟨t.text, t.weight, .merged t.alternatives t.text⟩]
  else [⟨t.text, t.weight, .term t.text⟩]

def Query.requests {α : Type} (q : Query α) (splitSynonyms : Bool) : List (OpeningRequest α) :=
  q.terms.flatMap (·.requests splitSynonyms)

/-- An opened term: its weight, how it was opened, and the place of its stream among those that the
session handed out. -/
structure PhraseTerm (α : Type) where
  text : String
  weight : α
  opening : Opening
  stream : Nat

structure Phrase (α : Type) where
  source : Source
  terms : List (PhraseTerm α)

namespace Phrase

variable {σ α : Type}

def size (p : Phrase α) : Nat :=
  p.terms.length

def contains (p : Phrase α) (text : String) : Bool :=
  p.terms.any (·.text == text)

def addWeight [Scalar α] (p : Phrase α) (text : String) (weight : α) : Phrase α :=
  { p with terms := p.terms.map fun t =>
      if t.text == text then { t with weight := t.weight + weight } else t }

def push (p : Phrase α) (t : PhraseTerm α) : Phrase α :=
  { p with terms := p.terms ++ [t] }

def closeIn (p : Phrase α) (s : Session σ α) : Session σ α :=
  p.terms.foldl (fun s t => s.closeStream t.stream) s

def streamsIn (p : Phrase α) (s : Session σ α) : List Stream :=
  p.terms.map fun t => s.stream t.stream

/-- Carries out one request. A stream that is opened again under a text is closed at once. -/
def carryOut [Scalar α] (p : Phrase α) (r : OpeningRequest α) : SessionM σ α (Phrase α) := do
  match ← SessionM.openStream p.source r.opening with
  | none =>
    modify (·.report (.termNotFound r.text))
    pure p
  | some place =>
    if p.contains r.text then
      modify (·.closeStream place)
      pure (p.addWeight r.text r.weight)
    else pure (p.push ⟨r.text, r.weight, r.opening, place⟩)

/-- Carries out requests in order; a failure closes what was kept. -/
def carryOutAll [Scalar α] (p : Phrase α) : List (OpeningRequest α) → SessionM σ α (Phrase α)
  | [] => pure p
  | r :: rest => do
    let p' ← tryCatch (p.carryOut r) fun e => do
      modify p.closeIn
      throw e
    p'.carryOutAll rest

def ofQuery [Scalar α] (source : Source) (q : Query α) (splitSynonyms : Bool) :
    SessionM σ α (Phrase α) :=
  (Phrase.mk source []).carryOutAll (q.requests splitSynonyms)

/-- Opens a term anew; its old stream stays where it is. -/
def reopen (p : Phrase α) (t : PhraseTerm α) : SessionM σ α Nat := do
  match ← SessionM.openStream p.source t.opening with
  | some place => pure place
  | none => throw (.termVanished t.text)

end Phrase
end ProximityRanking
