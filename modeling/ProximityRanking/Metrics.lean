import ProximityRanking.Failure
import ProximityRanking.Number.BlockSum
/-!
How good a ranking is: the normalised discounted cumulative gain of its first documents, and the
reciprocal rank of the first relevant one.
-/
set_option autoImplicit false

namespace ProximityRanking.Metrics

variable {α : Type}

def discount [LogScalar α] (place : Nat) : α :=
  1.0 / LogScalar.log2 (Scalar.ofInt (place + 2))

def gains [LogScalar α] (relevant retrieved : List Int) (cutoff : Nat) : List α :=
  (retrieved.take cutoff).zipIdx.map fun (docid, place) =>
    (if relevant.contains docid then 1.0 else 0.0) * discount place

/-- The gains of a ranking that starts with all relevant documents. -/
def idealGains [LogScalar α] (relevant : List Int) (cutoff : Nat) : List α :=
  (List.range (min relevant.length cutoff)).map discount

/-- The gain of a ranking up to a cutoff in proportion to the ideal one; zero where nothing is
relevant or the cutoff is not positive. The discounts are a table with a number for each rank up to
the cutoff. If that comes out shorter than the ranking the gains cannot be discounted, and if it
stays empty there is no ideal gain to divide by. -/
def ndcg [LogScalar α] [Table.Memory] (relevant retrieved : List Int) (cutoff : Int) :
    Except Failure α :=
  if cutoff ≤ 0 ∨ relevant.isEmpty then .ok 0.0
  else
    match Table.length cutoff.toNat with
    | .error fault => .error (.table fault)
    | .ok ranks =>
      let ranked := min retrieved.length cutoff.toNat
      if 2 ≤ ranked ∧ ranks < ranked then .error (.tablesDiffer ranked ranks)
      else if ranks = 0 then .error .divisionByZero
      else
        .ok (BlockSum.sum (gains relevant retrieved cutoff.toNat) /
          BlockSum.sum (idealGains relevant (min cutoff.toNat ranks)))

def reciprocalRank [Scalar α] (relevant retrieved : List Int) : α :=
  match retrieved.findIdx? relevant.contains with
  | some place => 1.0 / Scalar.ofInt (place + 1)
  | none => 0.0

end ProximityRanking.Metrics
