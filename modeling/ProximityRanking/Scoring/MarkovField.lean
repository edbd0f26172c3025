import ProximityRanking.Scoring
/-!
The Markov random field with Dirichlet smoothing. Its preparation opens the phrase once more and
counts the matching windows of every scored pair in the whole collection; the mean over the pairs,
at least one, is the frequency that the score compares a document with.
-/
set_option autoImplicit false

namespace ProximityRanking.Scoring

-- Sums start from the zero of core, whatever else is imported.
attribute [local instance (high)] Zero.ofOfNat0

variable {σ α : Type}

/-- The documents in which two streams meet, from where they stand. The one that is behind moves;
when both stand on one document both move on. -/
def meetings (a b : Stream) : List (Stream × Stream) :=
  if a.docid = endOfList ∨ b.docid = endOfList then []
  else if a.docid < b.docid ∧ a.steps ≤ a.size then meetings a.step b
  else if b.docid < a.docid ∧ b.steps ≤ b.size then meetings a b.step
  else if a.steps ≤ a.size ∧ b.steps ≤ b.size then (a, b) :: meetings a.step b.step
  else []
termination_by a.remaining + b.remaining
decreasing_by
  · rename_i _ h; have := Stream.remaining_step h.2; omega
  · rename_i _ _ h; have := Stream.remaining_step h.2; omega
  · rename_i _ _ _ h
    have := Stream.remaining_step h.1
    have := Stream.remaining_step h.2
    omega

def countMeeting (counter : PairCounter) (pairing : Pairing) (window : Int) (a b : Stream) :
    SessionM σ α Int := do
  let first ← SessionM.ofExcept a.positions
  let second ← SessionM.ofExcept b.positions
  let length ← SessionM.ofExcept a.docLength
  SessionM.count counter ⟨pairing, first, second, window, length⟩

def countMeetings (counter : PairCounter) (pairing : Pairing) (window : Int) :
    List (Stream × Stream) → SessionM σ α Int
  | [] => pure 0
  | (a, b) :: rest => do
    let n ← countMeeting counter pairing window a b
    let m ← countMeetings counter pairing window rest
    pure (n + m)

/-- The matching windows of a pair of terms in the collection. Both terms are opened anew; the two
streams are closed again, but a stream whose partner cannot be opened stays open. -/
def pairFrequency (phrase : Phrase α) (counter : PairCounter) (pairing : Pairing) (window : Int)
    (x y : PhraseTerm α) : SessionM σ α Int := do
  let i ← phrase.reopen x
  let j ← phrase.reopen y
  SessionM.andFinally
    (do
      let s ← get
      countMeetings counter pairing window (meetings (s.stream i).step (s.stream j).step))
    (modify fun s => (s.closeStream i).closeStream j)

def pairFrequencies (phrase : Phrase α) (counter : PairCounter) (pairing : Pairing) (window : Int) :
    List (PhraseTerm α × PhraseTerm α) → SessionM σ α (List Int)
  | [] => pure []
  | (x, y) :: rest => do
    let n ← pairFrequency phrase counter pairing window x y
    let ns ← pairFrequencies phrase counter pairing window rest
    pure (n :: ns)

def markovFieldName : String := "DirichletMRF"

/-- Remembers the context and estimates the frequency of a pair; a phrase of fewer than two terms
has no pairs, and its frequency stays one. -/
def prepareMarkovField [Scalar α] (p : Preparation α) : SessionM (Binding α) α Unit := do
  SessionM.onScorer (set (Binding.bound p.context))
  match p.collection with
  | none => pure ()
  | some (phrase, counter) =>
    if phrase.size < 2 then pure ()
    else
      let pairs := p.pairing.pairs phrase.terms
      let totals ← pairFrequencies phrase counter p.pairing p.context.window pairs
      let mean : α ← SessionM.ofOption .ratioTooLarge (Scalar.ratio? totals.sum totals.length)
      let frequency := Scalar.greatest mean 1.0
      SessionM.onScorer (modify fun b => { b with frequency := frequency })
      modify (·.report (.frequencyEstimate markovFieldName frequency pairs.length))

def quotient [Scalar α] (x y : α) : Except Failure α :=
  if y == 0.0 then .error .divisionByZero else .ok (x / y)

def binaryLog [LogScalar α] (x : α) : Except Failure α :=
  if x ≤ 0.0 then .error .logOfNonPositive else .ok (LogScalar.log2 x)

/-- The smoothed score: `log2 (1 + matching / (mu * p)) + log2 (mu / (length + mu))`, where `p` is
the frequency of a pair in proportion to the tokens of the collection. -/
def markovFieldScore [LogScalar α] (mu : α) (b : Binding α) (matching length : Int) :
    Except Failure α := do
  let c ← b.require markovFieldName
  let tokens : α ← Failure.ofInt (max c.tokens 1)
  let probability := b.frequency / tokens
  let tf : α ← Failure.ofInt matching
  let gain ← binaryLog (1.0 + (← quotient tf (mu * probability)))
  let size : α ← Failure.ofInt length
  let loss ← binaryLog (← quotient mu (size + mu))
  return gain + loss

def markovField [LogScalar α] (mu : α) : ScoringFunction (Binding α) α where
  name := markovFieldName
  prepare := prepareMarkovField
  score matching length := fun b => (markovFieldScore mu b matching length, b)

def defaultSmoothing : Float := 4000.0

end ProximityRanking.Scoring
