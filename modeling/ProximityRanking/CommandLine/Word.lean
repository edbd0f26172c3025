import ProximityRanking.Text.Class
/-!
The words of a command line. A word is an option, the value of an option, or stray. Options may be
shortened to any beginning that tells them apart, and a value may be attached with an equals sign.
-/
set_option autoImplicit false

namespace ProximityRanking.CommandLine

inductive Ending where
  | help
  | usage
  deriving DecidableEq, Repr

def Ending.code : Ending → Nat
  | .help => 0
  | .usage => 2

inductive Switch where
  | help
  | domain
  | cutoff
  | candidates
  | sampleQueries
  | seed
  | function
  | dependency
  | verbose
  deriving DecidableEq, Repr

namespace Switch

def shortHelp : List Char := ['-', 'h']

def name : Switch → String
  | .help => "--help"
  | .domain => "--domain"
  | .cutoff => "--k"
  | .candidates => "--candidates"
  | .sampleQueries => "--sample-queries"
  | .seed => "--seed"
  | .function => "--function"
  | .dependency => "--dependency"
  | .verbose => "--verbose"

def all : List Switch :=
  [help, domain, cutoff, candidates, sampleQueries, seed, function, dependency, verbose]

def takesValue : Switch → Bool
  | .help | .verbose => false
  | _ => true

def named? (s : List Char) : Option Switch :=
  if s = shortHelp then some .help else all.find? fun o => o.name.toList = s

def beginning (s : List Char) : List Switch :=
  all.filter fun o => s.isPrefixOf o.name.toList

end Switch

/-- A word of a command line. A `separator` is the double dash, and `helpWith` is the short name of
help with something attached, be it with an equals sign. -/
inductive Word where
  | value (text : String)
  | separator
  | unknown
  | option (o : Switch) (attached : Option String)
  | helpWith (tail : List Char)
  deriving DecidableEq

def splitEquals (s : List Char) : List Char × Option String :=
  match s.dropWhile (· ≠ '=') with
  | [] => (s, none)
  | _ :: rest => (s.takeWhile (· ≠ '='), some (String.ofList rest))

/-- A minus sign before digits, or before digits with a point in front or among them. A line break
may follow. -/
def isNegativeNumber : List Char → Bool
  | '-' :: rest =>
    let body := if rest.getLast? = some '\n' then rest.dropLast else rest
    let isPoint (c : Char) : Bool := c == '.'
    match body.dropWhile (!isPoint ·) with
    | [] => !body.isEmpty && body.all Text.isDigit
    | _ :: fraction =>
      (body.takeWhile (!isPoint ·)).all Text.isDigit && !fraction.isEmpty &&
        fraction.all Text.isDigit
  | _ => false

def classifyDashed (s : List Char) : Except Ending Word :=
  let (name, attached) := splitEquals s
  match Switch.named? name, attached with
  | some o, some v =>
    .ok (if name = Switch.shortHelp then .helpWith v.toList else .option o (some v))
  | _, _ =>
    let plain : Word :=
      if isNegativeNumber s || s.contains ' ' then .value (String.ofList s) else .unknown
    match s with
    | '-' :: '-' :: _ =>
      match Switch.beginning name with
      | [] => .ok plain
      | [o] => .ok (.option o attached)
      | _ => .error .usage
    | '-' :: 'h' :: tail => .ok (.helpWith tail)
    | _ => .ok plain

def classify (text : String) : Except Ending Word :=
  let s := text.toList
  if s.head? ≠ some '-' ∨ s.length = 1 then .ok (.value text)
  else
    match Switch.named? s with
    | some o => .ok (.option o none)
    | none => classifyDashed s

/-- Tells what all words are. Behind a double dash there are values only, and a beginning that fits
several options is refused wherever it stands. -/
def classifyAll : List String → Except Ending (List Word)
  | [] => .ok []
  | "--" :: rest => .ok (.separator :: rest.map .value)
  | text :: rest => do
    let word ← classify text
    let words ← classifyAll rest
    return word :: words

def repeatsHelp (tail : List Char) : Bool :=
  !tail.isEmpty && tail.all (· == 'h')

/-- The value that is attached to an option. A double dash is no value here either. -/
def attachedValue (text : String) : Option String :=
  if text = "--" then none else some text

end ProximityRanking.CommandLine
