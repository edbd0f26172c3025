import ProximityRanking.Text.CaseTable
import ProximityRanking.Text.WordTable
/-!
Cutting a text into tokens: the maximal runs of word characters of its lower case. Every character
is brought to lower case by itself but the capital sigma, whose lower case depends on whether it
ends a word.
-/
set_option autoImplicit false

namespace ProximityRanking.Text

def lowerCode (x : Nat) : Nat :=
  let below := countAtMost lowerRuns.size (fun i => (lowerRuns[i]?.map CaseRun.first).getD 0) x
  match lowerRuns[below - 1]? with
  | none => x
  | some run =>
    if run.first ≤ x ∧ x ≤ run.last ∧ (x - run.first) % run.stride = 0
    then ((x : Int) + run.shift).toNat else x

/-- The lower case of a character outside any context. Only the dotted capital I becomes two
characters, the letter and a combining dot. -/
def lowerChar (c : Char) : List Char :=
  if c.toNat = 0x130 then ['i', Char.ofNat 0x307] else [Char.ofNat (lowerCode c.toNat)]

def startsCased (cs : List Char) : Bool :=
  ((cs.dropWhile caseIgnorableCodes.contains).head?.map casedCodes.contains).getD false

def capitalSigma : Char := 'Σ'

/-- Lower case from left to right. The flag says whether the last character that was not ignored
had a case; a sigma after such a character, with none of them next, is the final one. -/
def lowerFrom (afterCased : Bool) : List Char → List Char
  | [] => []
  | c :: rest =>
    let image :=
      if c = capitalSigma then [if afterCased && !startsCased rest then 'ς' else 'σ']
      else lowerChar c
    let next := if caseIgnorableCodes.contains c then afterCased else casedCodes.contains c
    image ++ lowerFrom next rest

def lower (s : String) : String :=
  String.ofList (lowerFrom false s.toList)

def isWord (c : Char) : Bool :=
  wordCodes.contains c

def consRun (run : List Char) (runs : List (List Char)) : List (List Char) :=
  if run.isEmpty then runs else run :: runs

/-- The maximal runs of a class; the first argument holds the run being read, last character
first. -/
def runsFrom (p : Char → Bool) : List Char → List Char → List (List Char)
  | run, [] => consRun run.reverse []
  | run, c :: rest =>
    if p c then runsFrom p (c :: run) rest
    else consRun run.reverse (runsFrom p [] rest)

def runs (p : Char → Bool) (cs : List Char) : List (List Char) :=
  runsFrom p [] cs

def tokens (s : String) : List String :=
  (runs isWord (lower s).toList).map String.ofList

end ProximityRanking.Text
