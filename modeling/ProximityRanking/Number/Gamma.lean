/-!
The logarithm of the absolute value of the gamma function. Arguments below 13 are moved into
[2, 3) by the recurrence `Γ(x + 1) = x Γ(x)` and approximated there by a quotient of polynomials;
larger ones go through Stirling's series, and those far below zero through the reflection formula.
-/
set_option autoImplicit false

namespace ProximityRanking.Gamma

def horner (coefficients : List Float) (x : Float) : Float :=
  coefficients.foldl (fun acc c => acc * x + c) 0.0

def stirlingSeries : List Float :=
  [8.11614167470508450300e-4, -5.95061904284301438324e-4, 7.93650340457716943945e-4,
    -2.77777777730099687205e-3, 8.33333333333331927722e-2]

def shortStirlingSeries : List Float :=
  [7.9365079365079365079365e-4, -2.7777777777777777777778e-3, 0.0833333333333333333333]

/-- Numerator of the approximation on [2, 3), as a function of the distance from 2. -/
def numerator : List Float :=
  [-1.37825152569120859100e3, -3.88016315134637840924e4, -3.31612992738871184744e5,
    -1.16237097492762307383e6, -1.72173700820839662146e6, -8.53555664245765465627e5]

def denominator : List Float :=
  [1.0, -3.51815701436523470549e2, -1.70642106651881159223e4, -2.20528590553854454839e5,
    -1.13933444367982507207e6, -2.53252307177582951285e6, -2.01889141433532773231e6]

def halfLogTwoPi : Float := 0.91893853320467274178

def logPi : Float := 1.14472988584940017414

def pi : Float := 3.14159265358979323846

/-- Beyond this argument the value exceeds every double. -/
def largestArgument : Float := 2.556348e305

def pole : Float := 1.0 / 0.0

structure Reduced where
  argument : Float
  factor : Float

def Reduced.down : Nat → Reduced → Reduced
  | 0, r => r
  | fuel + 1, r =>
    if r.argument ≥ 3.0 then
      down fuel ⟨r.argument - 1.0, r.factor * (r.argument - 1.0)⟩
    else r

def Reduced.up : Nat → Reduced → Option Reduced
  | 0, r => some r
  | fuel + 1, r =>
    if r.argument < 2.0 then
      if r.argument == 0.0 then none
      else up fuel ⟨r.argument + 1.0, r.factor / r.argument⟩
    else some r

/-- More steps than any argument between -34 and 13 takes. -/
def maxSteps : Nat := 64

def small (x : Float) : Float :=
  match Reduced.up maxSteps (Reduced.down maxSteps ⟨x, 1.0⟩) with
  | none => pole
  | some r =>
    let base := Float.log r.factor.abs
    let t := r.argument - 2.0
    if t == 0.0 then base else base + t * horner numerator t / horner denominator t

def large (x : Float) : Float :=
  let main := (x - 0.5) * Float.log x - x + halfLogTwoPi
  let p := 1.0 / (x * x)
  if x > largestArgument then pole
  else if x > 1.0e8 then main
  else if x ≥ 1000.0 then main + horner shortStirlingSeries p / x
  else main + horner stirlingSeries p / x

def fromBelow (x : Float) : Float :=
  if x < 13.0 then small x else large x

def reflected (x : Float) : Float :=
  let q := -x
  let p := q.floor
  let distance := if q - p > 0.5 then p + 1.0 - q else q - p
  let z := q * Float.sin (pi * distance)
  if p == q || z == 0.0 then pole else logPi - Float.log z - fromBelow q

/-- `ln |Γ|`; infinite at zero and the negative integers, and the argument itself where that is not
finite. -/
def logAbs (x : Float) : Float :=
  if !x.isFinite then x
  else if x < -34.0 then reflected x
  else fromBelow x

end ProximityRanking.Gamma
