import ProximityRanking.Number.Binary64
/-!
Decimal text of doubles. `Significant.ofQuotient` rounds an exact value to a number of significant
digits; the texts below differ only in how they lay those digits out. `fixed` counts places after
the point instead.
-/
set_option autoImplicit false

namespace ProximityRanking

-- Powers are those of core whatever else is imported; that takes exponents of a known type.
attribute [local instance (high)] instPowNat

/-- The significant digits of a positive number: `digits * 10 ^ (exponent - (count - 1))`, where
`count` is the number of digits and `exponent` that of the leading one. -/
structure Significant where
  digits : Nat
  exponent : Int

def Quotient.leadingExponent (x : Quotient) : Int :=
  let guess : Int := ((Nat.log2 x.num : Int) - Nat.log2 x.den) * 30103 / 100000
  let atLeast (e : Int) : Bool :=
    let y := x.scale 10 (-e)
    y.den ≤ y.num
  if atLeast (guess + 1) then guess + 1
  else if atLeast guess then guess
  else guess - 1

/-- Rounds a positive number to `count` significant digits, a half going to the even digit. A carry
out of the leading digit raises the exponent. -/
def Significant.ofQuotient (count : Nat) (x : Quotient) : Significant :=
  let e := x.leadingExponent
  let d := (x.scale 10 (count - 1 - e)).round
  if d = 10 ^ count then ⟨10 ^ (count - 1), e + 1⟩ else ⟨d, e⟩

def padZeros (width : Nat) (s : String) : String :=
  "".pushn '0' (width - s.length) ++ s

def dropTrailingZeros (s : String) : String :=
  String.ofList (s.toList.reverse.dropWhile (· == '0')).reverse

def withFraction (whole fraction : String) : String :=
  if fraction.isEmpty then whole else whole ++ "." ++ fraction

def exponentText (e : Int) : String :=
  (if e < 0 then "-" else "+") ++ padZeros 2 (toString e.natAbs)

def splitFirst (s : String) : String × String :=
  (String.ofList (s.toList.take 1), String.ofList (s.toList.drop 1))

def scientificText (digits : String) (e : Int) : String :=
  let (whole, fraction) := splitFirst digits
  withFraction whole fraction ++ "e" ++ exponentText e

def positionalText (digits : String) (e : Int) : String :=
  if e < 0 then
    withFraction "0" ("".pushn '0' ((-e).toNat - 1) ++ digits)
  else
    let wide := digits.pushn '0' (e.toNat + 1 - digits.length)
    withFraction (String.ofList (wide.toList.take (e.toNat + 1)))
      (String.ofList (wide.toList.drop (e.toNat + 1)))

/-- The text of a double: `nan`, `inf` or the text that `digits` gives its absolute value, with a
minus sign in front of a negative number, the negative zero included. -/
def signedText (digits : Quotient → String) (x : Float) : String :=
  if x.isNaN then "nan"
  else
    let magnitude := if x.isFinite then digits (Binary64.parts x).quotient else "inf"
    if Binary64.isNegative x then "-" ++ magnitude else magnitude

def scientific (places : Nat) : Float → String :=
  signedText fun x =>
    let s := if x.num = 0 then ⟨0, 0⟩ else Significant.ofQuotient (places + 1) x
    scientificText (padZeros (places + 1) (toString s.digits)) s.exponent

/-- At most six significant digits without zeros at the end, positional for exponents from -4 to 5
and scientific otherwise. -/
def general : Float → String :=
  signedText fun x =>
    if x.num = 0 then "0"
    else
      let s := Significant.ofQuotient 6 x
      let digits := dropTrailingZeros (toString s.digits)
      if -4 ≤ s.exponent ∧ s.exponent < 6 then positionalText digits s.exponent
      else scientificText digits s.exponent

def fixed (places : Nat) : Float → String :=
  signedText fun x =>
    let digits := padZeros (places + 1) (toString (x.scale 10 places).round)
    positionalText digits (digits.length - 1 - places)

/-- The fewest significant digits, at most seventeen, whose nearest double is the number. -/
def Significant.shortest (x : Quotient) : Significant :=
  let bits := Binary64.nearestBits x
  let readsBack (count : Nat) : Bool :=
    let s := Significant.ofQuotient count x
    Binary64.nearestBits ((Quotient.mk s.digits 1).scale 10 (s.exponent - (count - 1))) == bits
  Significant.ofQuotient (((List.range' 1 16).find? readsBack).getD 17) x

/-- The fewest digits that read back, positional for exponents from -4 to 15 and with at least one
digit after the point. -/
def shortest : Float → String :=
  signedText fun x =>
    if x.num = 0 then "0.0"
    else
      let s := Significant.shortest x
      let digits := dropTrailingZeros (toString s.digits)
      if -4 ≤ s.exponent ∧ s.exponent < 16 then
        let text := positionalText digits s.exponent
        if text.contains '.' then text else text ++ ".0"
      else scientificText digits s.exponent

def grouped (n : Nat) : String :=
  let rec go (digits : List Char) (k : Nat) : List Char :=
    match digits with
    | [] => []
    | d :: rest => if k % 3 = 0 ∧ 0 < k then ',' :: d :: go rest (k + 1) else d :: go rest (k + 1)
  String.ofList (go (toString n).toList.reverse 0).reverse

end ProximityRanking
