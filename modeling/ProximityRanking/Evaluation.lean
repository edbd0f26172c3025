import ProximityRanking.Metrics
import ProximityRanking.Rescorer
import ProximityRanking.Scoring.Catalog
/-!
Evaluation: the quality of the first-stage ranking beside that of the two-stage ranking, over the
example queries of a dataset. A dataset is read from lines of fields between tabs: `D`, a name and a
text for a document, and `Q`, a query and the names of its answers between spaces for an example;
other lines are skipped. The report is printed as a JSON object, one field a line.
-/
set_option autoImplicit false

namespace ProximityRanking.Evaluation

structure Document where
  id : Option String
  content : Option String

structure Example where
  query : Option String
  gold : Option (List String)

structure Dataset where
  documents : List Document
  examples : List Example

inductive Parameter where
  | domain
  | cutoff
  | candidates
  | sampleSize
  | seed
  | function
  deriving DecidableEq, Repr

def Parameter.complaint : Parameter → String
  | .domain | .function => "unhashable type: 'list'"
  | .cutoff => "'<=' not supported between instances of 'list' and 'int'"
  | .candidates => "slice indices must be integers or None or have an __index__ method"
  | .sampleSize => "'>' not supported between instances of 'list' and 'int'"
  | .seed =>
    "The only supported seed types are: None,\nint, float, str, bytes, and bytearray."

inductive Fault where
  | dependencyUnset
  | noValue (parameter : Parameter)
  | missingField (name : String)
  | sampleSize
  | unknownFunction (name : String)
  | settings (fault : Settings.Fault)
  | measure (failure : Failure)
  deriving DecidableEq, Repr

def Fault.message : Fault → String
  | .noValue parameter => parameter.complaint
  | .dependencyUnset => "Set PROXIMITY_DEPENDENCY_TYPE or pass --dependency SD/FD"
  | .missingField name => Text.quoted name
  | .sampleSize => "Sample larger than population or is negative"
  | .unknownFunction name => Text.quoted name
  | .settings fault => fault.message
  | .measure failure => failure.message

/-- What is evaluated and how. Parameters can be named without a value; then they are `blank`, and
what stands here for them does not count. -/
structure Options where
  domain : String
  cutoff : Int
  candidates : Option Int
  sampleQueries : Option Int
  seed : Int
  function : String
  blank : List Parameter

namespace Options

def standard : Options where
  domain := "biology"
  cutoff := 10
  candidates := some 100
  sampleQueries := none
  seed := 42
  function := "pbil"
  blank := []

def need (o : Options) (p : Parameter) : Except Fault Unit :=
  if o.blank.contains p then .error (.noValue p) else .ok ()

def shownDomain (o : Options) : String :=
  if o.blank.contains .domain then "[]" else o.domain

def cutoff? (o : Options) : Option Int :=
  if o.blank.contains .cutoff then none else some o.cutoff

end Options

structure Report where
  baselineNdcg : Float
  baselineReciprocalRank : Float
  dependenceNdcg : Float
  dependenceReciprocalRank : Float
  queries : Nat
  modified : Nat
  documents : Nat
  cutoff : Option Int
  mode : DependencyMode
  function : String

structure Transcript where
  lines : Array String
  events : Array (Event Float)

abbrev EvaluationM := ExceptT Fault (StateM Transcript)

def print (line : String) : EvaluationM Unit :=
  modify fun t => { t with lines := t.lines.push line }

def require {β : Type} (name : String) : Option β → Except Fault β
  | some x => .ok x
  | none => .error (.missingField name)

/-- The index of the documents of a dataset. All names are looked at before any content. -/
def indexOf (documents : List Document) (positional : Bool) : Except Fault Index := do
  let ids ← documents.mapM fun d => require "id" d.id
  let texts ← documents.mapM fun d => require "content" d.content
  return Index.ofTexts texts ids positional

def draw {β : Type} : Nat → StdGen → List β → List β
  | 0, _, _ => []
  | n + 1, gen, l =>
    let (i, gen) := randNat gen 0 (l.length - 1)
    match l[i]? with
    | none => []
    | some x => x :: draw n gen (l.eraseIdx i)

/-- A sample of the size that the options say; no sample is taken where there are not more elements
than that, and no seed is needed then. -/
def sample {β : Type} (options : Options) (l : List β) : Except Fault (List β) :=
  match options.sampleQueries with
  | none => .ok l
  | some n =>
    if l.length ≤ n then .ok l
    else do
      options.need .seed
      if n < 0 then .error .sampleSize
      else .ok (draw n.toNat (mkStdGen options.seed.natAbs) l)

structure Figures where
  baselineNdcg : Float
  baselineReciprocalRank : Float
  dependenceNdcg : Float
  dependenceReciprocalRank : Float
  modified : Bool

def gain [Table.Memory] (options : Options) (relevant retrieved : List Int) :
    Except Fault Float := do
  options.need .cutoff
  (Metrics.ndcg relevant retrieved options.cutoff).mapError .measure

def evaluateQuery [Table.Memory] {σ : Type} (ranker : BM25 Float)
    (rescorer : Rescorer σ Float) (settings : Settings Float) (options : Options) (query : String)
    (gold : List String) (scorer : σ) : EvaluationM (Figures × σ) := do
  let relevant := (ranker.index.numbersOf gold).map Int.ofNat
  options.need .candidates
  let (reranking, session) :=
    (Reranking.run ranker rescorer (.ok settings) options.candidates
      (Text.tokens query)).run (.start Float scorer)
  let retrieved := reranking.retrieved.docids
  let reranked := reranking.reranked.docids
  let baselineNdcg ← gain options relevant retrieved
  modify fun t => { t with events := t.events ++ session.events }
  let dependenceNdcg ← gain options relevant reranked
  let figures : Figures := {
    baselineNdcg := baselineNdcg
    baselineReciprocalRank := Metrics.reciprocalRank relevant retrieved
    dependenceNdcg := dependenceNdcg
    dependenceReciprocalRank := Metrics.reciprocalRank relevant reranked
    modified := reranking.outcome.modified }
  return (figures, session.scorer)

/-- Evaluates queries one after the other. Each has a session of its own, but the scoring function
keeps its state. -/
def evaluateQueries [Table.Memory] {σ : Type} (ranker : BM25 Float)
    (rescorer : Rescorer σ Float) (settings : Settings Float) (options : Options) :
    List (String × List String) → σ → EvaluationM (List Figures)
  | [], _ => pure []
  | (query, gold) :: rest, scorer => do
    let (figures, scorer) ← evaluateQuery ranker rescorer settings options query gold scorer
    let others ← evaluateQueries ranker rescorer settings options rest scorer
    return figures :: others

def summarize (figures : List Figures) (documents : Nat) (settings : Settings Float)
    (options : Options) : Report where
  baselineNdcg := BlockSum.mean (figures.map Figures.baselineNdcg)
  baselineReciprocalRank := BlockSum.mean (figures.map Figures.baselineReciprocalRank)
  dependenceNdcg := BlockSum.mean (figures.map Figures.dependenceNdcg)
  dependenceReciprocalRank := BlockSum.mean (figures.map Figures.dependenceReciprocalRank)
  queries := figures.length
  modified := figures.countP Figures.modified
  documents := documents
  cutoff := options.cutoff?
  mode := settings.mode
  function := options.function

def chooseFunction (env : Environment) (name : String) :
    Except Fault (ScoringFunction (Binding Float) Float) :=
  match Scoring.Choice.named? name with
  | none => .error (.unknownFunction name)
  | some choice => (choice.make env).mapError .settings

def evaluate [Table.Memory] (options : Options) (settings : Settings Float)
    (env : Environment) (dataset : Dataset) : EvaluationM Report := do
  if settings.mode = .unset then throw .dependencyUnset
  print ("Loading " ++ options.shownDomain ++ " dataset...")
  options.need .domain
  let index ← indexOf dataset.documents true
  print ("Index built: " ++ grouped index.vocabularySize ++ " terms, " ++ grouped index.size ++
    " docs")
  let queries ← dataset.examples.mapM fun e => require "query" e.query
  let gold ← dataset.examples.mapM fun e => require "gold_ids" e.gold
  let chosen ← sample options (queries.zip gold)
  options.need .function
  let function ← chooseFunction env options.function
  let rescorer : Rescorer (Binding Float) Float := ⟨function, .windows⟩
  let figures ← evaluateQueries (.standard index) rescorer settings options chosen .unbound
  return summarize figures index.size settings options

def Dataset.empty : Dataset := ⟨[], []⟩

def Dataset.addLine (line : String) (d : Dataset) : Dataset :=
  match line.splitOn "\t" with
  | ["D", id, content] => { d with documents := ⟨some id, some content⟩ :: d.documents }
  | ["Q", query, gold] =>
    let names := (gold.splitOn " ").filter fun name => !name.isEmpty
    { d with examples := ⟨some query, some names⟩ :: d.examples }
  | _ => d

def Dataset.ofLines (lines : List String) : Dataset :=
  lines.foldr Dataset.addLine .empty

def jsonName (s : String) : String :=
  "\"" ++ s ++ "\""

def Report.fields (r : Report) : List (String × String) :=
  [("bm25_ndcg_at_k", shortest r.baselineNdcg),
    ("bm25_mrr", shortest r.baselineReciprocalRank),
    ("dependence_ndcg_at_k", shortest r.dependenceNdcg),
    ("dependence_mrr", shortest r.dependenceReciprocalRank),
    ("queries", toString r.queries),
    ("queries_modified", toString r.modified),
    ("documents", toString r.documents),
    ("k", (r.cutoff.map toString).getD "[]"),
    ("dependency", jsonName r.mode.code),
    ("function", jsonName r.function)]

def Report.json (r : Report) : String :=
  let line (field : String × String) : String := "  " ++ jsonName field.1 ++ ": " ++ field.2
  "\x7b\n" ++ ",\n".intercalate (r.fields.map line) ++ "\n\x7d"

end ProximityRanking.Evaluation
