import ProximityRanking.CommandLine.Word
import ProximityRanking.Evaluation
/-!
The command line of an evaluation.
-/
set_option autoImplicit false

namespace ProximityRanking.CommandLine

structure Arguments where
  options : Evaluation.Options
  dependency : Option String
  verbose : Bool

def Switch.parameter? : Switch → Option Evaluation.Parameter
  | .domain => some .domain
  | .cutoff => some .cutoff
  | .candidates => some .candidates
  | .sampleQueries => some .sampleSize
  | .seed => some .seed
  | .function => some .function
  | .help | .dependency | .verbose => none

namespace Arguments

def standard : Arguments where
  options := .standard
  dependency := none
  verbose := false

def integer (text : String) : Except Ending Int :=
  match Numeral.integer? text with
  | some n => .ok n
  | none => .error .usage

def choice (names : List String) (text : String) : Except Ending String :=
  if names.contains text then .ok text else .error .usage

def read (a : Arguments) (o : Switch) (text : String) : Except Ending Arguments :=
  match o with
  | .help | .verbose => .error .usage
  | .domain => .ok { a with options.domain := text }
  | .cutoff => do
    let n ← integer text
    return { a with options.cutoff := n }
  | .candidates => do
    let n ← integer text
    return { a with options.candidates := some n }
  | .sampleQueries => do
    let n ← integer text
    return { a with options.sampleQueries := if 0 < n then some n else none }
  | .seed => do
    let n ← integer text
    return { a with options.seed := n }
  | .function => do
    let name ← choice (Scoring.Choice.all.map Scoring.Choice.name) text
    return { a with options.function := name }
  | .dependency => do
    let code ← choice ["SD", "FD"] text
    return { a with dependency := some code }

/-- Gives an option its value, or leaves it without one. What was said before for the same option
does not count any more. -/
def assign (a : Arguments) (o : Switch) (value : Option String) : Except Ending Arguments :=
  let others := a.options.blank.filter fun p => o.parameter? ≠ some p
  match value with
  | some text => { a with options.blank := others }.read o text
  | none =>
    match o.parameter? with
    | some p => .ok { a with options.blank := p :: others }
    | none => .ok { a with dependency := none }

def follow : List Word → Bool → Arguments → Except Ending Arguments
  | [], stray, a => if stray then .error .usage else .ok a
  | .option o (some text) :: rest, stray, a =>
    if o.takesValue then do follow rest stray (← a.assign o (attachedValue text))
    else .error .usage
  | .option o none :: .value text :: rest, stray, a =>
    if o.takesValue then do follow rest stray (← a.assign o (some text))
    else if o = .help then .error .help
    else follow (.value text :: rest) stray { a with verbose := true }
  | .option o none :: rest, stray, a =>
    if o.takesValue then .error .usage
    else if o = .help then .error .help
    else follow rest stray { a with verbose := true }
  | .helpWith tail :: _, _, _ => .error (if repeatsHelp tail then .help else .usage)
  | .value _ :: rest, _, a => follow rest true a
  | .separator :: rest, _, a => follow rest true a
  | .unknown :: rest, _, a => follow rest true a

def parse (words : List String) : Except Ending Arguments := do
  follow (← classifyAll words) false .standard

end Arguments

def environment (a : Arguments) (env : Environment) : Environment :=
  match a.dependency with
  | some code => (Settings.dependencyKey, code) :: env
  | none => env

/-- Runs the evaluation that a command line asks for. Whether a sample is asked for is looked at
before the settings are. -/
def run [Table.Memory] (a : Arguments) (env : Environment) (dataset : Evaluation.Dataset) :
    Evaluation.EvaluationM Evaluation.Report := do
  a.options.need .sampleSize
  match Settings.read (environment a env) with
  | .error fault => throw (.settings fault)
  | .ok settings => Evaluation.evaluate a.options settings env dataset

/-- The machine that the program itself counts on, with 32 GiB for a table; no theorem does. -/
@[reducible] instance (priority := low) machine : Table.Memory := ⟨0x100000000⟩

end ProximityRanking.CommandLine
