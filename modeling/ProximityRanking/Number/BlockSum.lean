import ProximityRanking.Scalar
/-!
Sums in blocks. Short sequences are added from left to right, middle ones in eight lanes, and long
ones half by half, which keeps the rounding errors of long sums small.
-/
set_option autoImplicit false

namespace ProximityRanking.BlockSum

variable {α : Type} [Scalar α]

def lanes : Nat := 8

/-- The longest sequence that is not halved. -/
def blockSize : Nat := 128

def addPlaces (a : Array α) (places : List Nat) (sum : α) : α :=
  places.foldl (fun sum i => sum + a.getD i 0.0) sum

/-- The sum of every eighth entry from `start` on, over `rounds + 1` entries. -/
def lane (a : Array α) (start rounds : Nat) : α :=
  addPlaces a ((List.range rounds).map fun i => start + lanes * (i + 1)) (a.getD start 0.0)

def block (a : Array α) (start count : Nat) : α :=
  if count < lanes then addPlaces a (List.range' start count) 0.0
  else
    let rounds := count / lanes - 1
    let l (j : Nat) : α := lane a (start + j) rounds
    let sum := ((l 0 + l 1) + (l 2 + l 3)) + ((l 4 + l 5) + (l 6 + l 7))
    let covered := lanes * (rounds + 1)
    addPlaces a (List.range' (start + covered) (count - covered)) sum

/-- Where a sequence is halved: at a multiple of the number of lanes. -/
def half (count : Nat) : Nat :=
  count / 2 - count / 2 % lanes

/-- The sum of `count` entries from `start` on. -/
def range (a : Array α) (start count : Nat) : α :=
  if count ≤ blockSize then block a start count
  else range a start (half count) + range a (start + half count) (count - half count)
termination_by count
decreasing_by all_goals simp only [half, lanes, blockSize] at *; omega

def sum (l : List α) : α :=
  range l.toArray 0 l.length

def mean (l : List α) : α :=
  if l.isEmpty then 0.0 else sum l / Scalar.ofInt l.length

end ProximityRanking.BlockSum
