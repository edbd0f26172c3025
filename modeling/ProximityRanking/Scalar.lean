import ProximityRanking.Number.Binary64
import ProximityRanking.Number.Gamma
/-!
The numbers that scores are made of. Ranking is written once over `Scalar`; it runs on doubles, and
what is said about exact arithmetic is said of another instance. Comparisons are those of the
instance, so on doubles nothing is below, above or equal to what is not a number.
-/
set_option autoImplicit false

namespace ProximityRanking

/-- Numbers with the four operations, comparisons and the nearest values of integers and of their
ratios. -/
class Scalar (α : Type) extends Add α, Sub α, Mul α, Div α, Neg α, OfScientific α, LT α, LE α,
    BEq α where
  decLT : DecidableLT α
  decLE : DecidableLE α
  isFinite : α → Bool
  ofInt : Int → α
  ofRatio : Int → Nat → α

attribute [reducible, instance] Scalar.decLT Scalar.decLE

class LogScalar (α : Type) extends Scalar α where
  log : α → α
  log2 : α → α
  lnGamma : α → α

namespace Scalar

variable {α : Type} [Scalar α]

def fromInt? (n : Int) : Option α :=
  let x : α := ofInt n
  if isFinite x then some x else none

def ratio? (num : Int) (den : Nat) : Option α :=
  let x : α := ofRatio num den
  if isFinite x then some x else none

def least (a b : α) : α :=
  if b < a then b else a

def greatest (a b : α) : α :=
  if a < b then b else a

def isUndefined (a : α) : Bool :=
  !(a == a)

/-- Ranking order: larger scores come first, and what is not a number comes last. -/
def ranksBefore (a b : α) : Bool :=
  isUndefined b || decide (b ≤ a)

end Scalar

instance Scalar.float : Scalar Float where
  decLT := inferInstance
  decLE := inferInstance
  isFinite := Float.isFinite
  ofInt := Binary64.ofInt
  ofRatio := Binary64.ofRatio

instance LogScalar.float : LogScalar Float where
  log := Float.log
  log2 := Float.log2
  lnGamma := Gamma.logAbs

end ProximityRanking
