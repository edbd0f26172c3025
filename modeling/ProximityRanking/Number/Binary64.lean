/-!
Numbers of a fixed width: integers of so many bits, one of which is the sign, and doubles. Exact
quotients are rounded to the nearest double. Every number that is read from text or divided out of
two integers passes through `nearest`, and every number that is written passes through `parts`.
-/
set_option autoImplicit false

namespace ProximityRanking

-- Powers are those of core whatever else is imported; that takes exponents of a known type.
attribute [local instance (high)] instPowNat

/-- Whether an integer has no more than `bits` bits, its sign among them. -/
def fitsBits (bits : Nat) (n : Int) : Bool :=
  -2 ^ (bits - 1) ≤ n && n < 2 ^ (bits - 1)

theorem fitsBits_iff (bits : Nat) (n : Int) :
    fitsBits bits n = true ↔ -2 ^ (bits - 1) ≤ n ∧ n < 2 ^ (bits - 1) := by
  simp [fitsBits]

/-- The quotient rounded to the nearest integer; a half goes to the even neighbour. -/
def roundDiv (num den : Nat) : Nat :=
  let q := num / den
  let r := num % den
  if 2 * r < den then q
  else if den < 2 * r then q + 1
  else q + q % 2

theorem roundDiv_mul (q den : Nat) (h : 0 < den) : roundDiv (den * q) den = q := by
  have hq : den * q / den = q := by rw [Nat.mul_comm, Nat.mul_div_cancel _ h]
  have hr : den * q % den = 0 := Nat.mul_mod_right den q
  simp only [roundDiv, hq, hr, Nat.mul_zero, if_pos h]

structure Quotient where
  num : Nat
  den : Nat

def Quotient.scale (x : Quotient) (base : Nat) (shift : Int) : Quotient :=
  if 0 ≤ shift then { x with num := x.num * base ^ shift.toNat }
  else { x with den := x.den * base ^ (-shift).toNat }

def Quotient.round (x : Quotient) : Nat :=
  roundDiv x.num x.den

namespace Binary64

def fractionBits : Nat := 52

def minExponent : Int := -1074

def infinityBits : Nat := 0x7FF * 2 ^ fractionBits

def signBit : Nat := 2 ^ (63 : Nat)

/-- The exponent of the unit in the last place of the double nearest to a positive quotient,
before a carry out of the significand. -/
def unitExponent (x : Quotient) : Int :=
  let e : Int := (Nat.log2 x.num : Int) - Nat.log2 x.den - fractionBits
  let y := x.scale 2 (-e)
  max minExponent (if y.num < y.den * 2 ^ fractionBits then e - 1 else e)

/-- The bit pattern of the double nearest to a quotient, ties to even. A carry out of the
significand adds one to the exponent field, and a quotient beyond the largest double gives
infinity. -/
def nearestBits (x : Quotient) : Nat :=
  if x.num = 0 then 0
  else
    let e := unitExponent x
    let m := (x.scale 2 (-e)).round
    min infinityBits ((e - minExponent).toNat * 2 ^ fractionBits + m)

def nearest (negative : Bool) (x : Quotient) : Float :=
  Float.ofBits (UInt64.ofNat ((if negative then signBit else 0) + nearestBits x))

/-- The integer that the double nearest to a natural number stands for, as if doubles had no largest
one. -/
def roundNat (n : Nat) : Nat :=
  let unit := 2 ^ (Nat.log2 n - fractionBits)
  roundDiv n unit * unit

theorem roundNat_of_lt {n : Nat} (h : n < 2 ^ (53 : Nat)) : roundNat n = n := by
  have hlog : Nat.log2 n - fractionBits = 0 := by
    by_cases hn : n = 0
    · subst hn; decide
    · have := (Nat.log2_lt hn).2 h
      unfold fractionBits
      omega
  have hr := roundDiv_mul n 1 Nat.one_pos
  rw [Nat.one_mul] at hr
  simp only [roundNat, hlog, Nat.pow_zero, hr, Nat.mul_one]

theorem roundNat_of_le {n : Nat} (h : n ≤ 2 ^ (53 : Nat)) : roundNat n = n := by
  rcases Nat.lt_or_eq_of_le h with h | rfl
  · exact roundNat_of_lt h
  · decide

/-- The double nearest to an integer; beyond the largest double it is an infinity. -/
def ofInt (n : Int) : Float :=
  nearest (n < 0) ⟨n.natAbs, 1⟩

def ofRatio (num : Int) (den : Nat) : Float :=
  nearest (num < 0) ⟨num.natAbs, den⟩

/-- The exact value `± mantissa * 2 ^ exponent` of a finite double. -/
structure Parts where
  negative : Bool
  mantissa : Nat
  exponent : Int

def Parts.quotient (p : Parts) : Quotient :=
  (Quotient.mk p.mantissa 1).scale 2 p.exponent

def isNegative (x : Float) : Bool :=
  signBit ≤ x.toBits.toNat

def parts (x : Float) : Parts :=
  let bits := x.toBits.toNat % signBit
  let field := bits / 2 ^ fractionBits
  let fraction := bits % 2 ^ fractionBits
  if field = 0 then ⟨isNegative x, fraction, minExponent⟩
  else ⟨isNegative x, fraction + 2 ^ fractionBits, minExponent + field - 1⟩

end Binary64
end ProximityRanking
