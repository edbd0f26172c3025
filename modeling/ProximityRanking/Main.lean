import ProximityRanking.CommandLine
/-!
The program: reads a dataset from standard input, evaluates it as the command line asks, and prints
the report. Reports of the scoring passes go to standard error.
-/
set_option autoImplicit false

namespace ProximityRanking

def variableNames : List String :=
  [Settings.dependencyKey, Settings.windowKey, Settings.ruleKey, Settings.baseWeightKey,
    Settings.orderedWeightKey, Settings.unorderedWeightKey, Settings.splitSynonymsKey,
    Scoring.Choice.normalisationKey, Scoring.Choice.smoothingKey]

def readEnvironment : IO Environment :=
  variableNames.filterMapM fun name => do
    return (← IO.getEnv name).map fun value => (name, value)

partial def readLines (input : IO.FS.Stream) (lines : Array String) : IO (Array String) := do
  let line ← input.getLine
  if line.isEmpty then return lines
  readLines input (lines.push (line.dropEndWhile (· == '\n')).toString)

def isShown (verbose : Bool) (e : Event Float) : Bool :=
  match e.level with
  | .debug => false
  | .info => verbose
  | .warning | .error => true

def printEvaluation (verbose : Bool) (result : Except Evaluation.Fault Evaluation.Report)
    (transcript : Evaluation.Transcript) : IO UInt32 := do
  for line in transcript.lines do IO.println line
  for e in transcript.events do
    if isShown verbose e then IO.eprintln (e.level.name ++ " " ++ e.text)
  match result with
  | .ok report =>
    IO.println report.json
    return 0
  | .error fault =>
    IO.eprintln fault.message
    return 1

end ProximityRanking

open ProximityRanking

def main (words : List String) : IO UInt32 := do
  match CommandLine.Arguments.parse words with
  | .error ending => return ending.code.toUInt32
  | .ok arguments =>
    let env ← readEnvironment
    let lines ← readLines (← IO.getStdin) #[]
    let dataset := Evaluation.Dataset.ofLines lines.toList
    let (result, transcript) := (CommandLine.run arguments env dataset).run ⟨#[], #[]⟩
    printEvaluation arguments.verbose result transcript
