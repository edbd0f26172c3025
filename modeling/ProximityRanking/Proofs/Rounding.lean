import Mathlib
import ProximityRanking.Scalar
import ProximityRanking.Table
/-!
How far rounding goes. A rounded quotient is one of the two integers next to it, so it is known for
every length of a table whether it is laid out, refused or empty, and a ratio of moderate size has a
finite double.
-/
set_option autoImplicit false

namespace ProximityRanking

theorem le_roundDiv (num den : Nat) : num / den ≤ roundDiv num den := by
  simp only [roundDiv]
  split
  · omega
  · split <;> omega

theorem roundDiv_le (num den : Nat) : roundDiv num den ≤ num / den + 1 := by
  simp only [roundDiv]
  split
  · omega
  · split <;> omega

namespace Binary64

theorem two_pow_le_roundNat {k n : Nat} (h : 2 ^ k ≤ n) : 2 ^ k ≤ roundNat n := by
  by_cases hn : n < 2 ^ 53
  · rwa [roundNat_of_lt hn]
  · have hne : n ≠ 0 := by omega
    have hlog : 53 ≤ Nat.log2 n := (Nat.le_log2 hne).2 (Nat.le_of_not_lt hn)
    have hpos : 0 < 2 ^ (Nat.log2 n - fractionBits) := Nat.two_pow_pos _
    have hunits : 2 ^ 52 * 2 ^ (Nat.log2 n - fractionBits) = 2 ^ Nat.log2 n := by
      rw [← Nat.pow_add]
      congr 1
      unfold fractionBits
      omega
    have hq : 2 ^ 52 ≤ n / 2 ^ (Nat.log2 n - fractionBits) := by
      rw [Nat.le_div_iff_mul_le hpos, hunits]
      exact Nat.log2_self_le hne
    calc 2 ^ k ≤ 2 ^ Nat.log2 n := Nat.pow_le_pow_right (by omega) ((Nat.le_log2 hne).2 h)
      _ = 2 ^ 52 * 2 ^ (Nat.log2 n - fractionBits) := hunits.symm
      _ ≤ roundNat n := Nat.mul_le_mul_right _ (hq.trans (le_roundDiv n _))

theorem scale_lt {x : Quotient} (hden : 0 < x.den) {e : Int}
    (he : (Nat.log2 x.num : Int) - Nat.log2 x.den - 53 ≤ e) :
    (x.scale 2 (-e)).num < (x.scale 2 (-e)).den * 2 ^ 54 := by
  have hnum : x.num < 2 ^ (Nat.log2 x.num + 1) := Nat.lt_log2_self
  have hle : 2 ^ Nat.log2 x.den ≤ x.den := Nat.log2_self_le (by omega)
  unfold Quotient.scale
  split
  · dsimp only
    calc x.num * 2 ^ (-e).toNat < 2 ^ (Nat.log2 x.num + 1) * 2 ^ (-e).toNat :=
          Nat.mul_lt_mul_of_pos_right hnum (Nat.two_pow_pos _)
      _ = 2 ^ (Nat.log2 x.num + 1 + (-e).toNat) := (Nat.pow_add ..).symm
      _ ≤ 2 ^ (Nat.log2 x.den + 54) := Nat.pow_le_pow_right (by omega) (by omega)
      _ = 2 ^ Nat.log2 x.den * 2 ^ 54 := Nat.pow_add ..
      _ ≤ x.den * 2 ^ 54 := Nat.mul_le_mul_right _ hle
  · dsimp only
    calc x.num < 2 ^ (Nat.log2 x.num + 1) := hnum
      _ ≤ 2 ^ (Nat.log2 x.den + (- -e).toNat + 54) := Nat.pow_le_pow_right (by omega) (by omega)
      _ = 2 ^ Nat.log2 x.den * 2 ^ (- -e).toNat * 2 ^ 54 := by rw [Nat.pow_add, Nat.pow_add]
      _ ≤ x.den * 2 ^ (- -e).toNat * 2 ^ 54 :=
          Nat.mul_le_mul_right _ (Nat.mul_le_mul_right _ hle)

theorem nearestBits_lt {x : Quotient} (h : x.num < x.den * 2 ^ 64) :
    nearestBits x < infinityBits := by
  have hden : 0 < x.den := by
    by_contra hzero
    simp [show x.den = 0 by omega] at h
  unfold nearestBits
  split
  · decide
  · rename_i hnum
    have hlog : Nat.log2 x.num < Nat.log2 x.den + 65 := by
      apply (Nat.log2_lt hnum).2
      calc x.num < x.den * 2 ^ 64 := h
        _ < 2 ^ (Nat.log2 x.den + 1) * 2 ^ 64 :=
            Nat.mul_lt_mul_of_pos_right Nat.lt_log2_self (by decide)
        _ = 2 ^ (Nat.log2 x.den + 65) := by rw [← Nat.pow_add]
    have hexp : (Nat.log2 x.num : Int) - Nat.log2 x.den - 53 ≤ unitExponent x ∧
        unitExponent x ≤ 12 := by
      unfold unitExponent minExponent fractionBits
      dsimp only
      split <;> omega
    -- A carry out of the significand makes the exponent one larger, and no more than that.
    have hround : (x.scale 2 (-unitExponent x)).round ≤ 2 ^ 54 := by
      have hscale := scale_lt hden hexp.1
      have hdiv := Nat.div_lt_of_lt_mul hscale
      have := roundDiv_le (x.scale 2 (-unitExponent x)).num (x.scale 2 (-unitExponent x)).den
      unfold Quotient.round
      omega
    have hmin := hexp.2
    simp only [fractionBits, infinityBits, minExponent]
    omega

open Float.Model

abbrev exponentField (b : BitVec 64) : BitVec 11 := @UnpackedFloat.unpackExponent .binary64 b

inductive InRange : UnpackedFloat → Prop where
  | zero (s : UnpackedFloat.Sign) : InRange (.zero s)
  | finite (s : UnpackedFloat.Sign) (m : Nat) (e : Int) (hm : 0 < m)
      (he : (e + 1075).toNat < 2047) : InRange (.finite s m e hm)

theorem exponentField_lt {b : BitVec 64} (h : exponentField b ≠ -1#11) :
    (exponentField b).toNat < 2047 := by
  have hle : (exponentField b).toNat < 2048 := (exponentField b).isLt
  have hne : (exponentField b).toNat ≠ 2047 := fun heq => h (BitVec.eq_of_toNat_eq heq)
  omega

theorem inRange_unpack {b : BitVec 64} (h : exponentField b ≠ -1#11) :
    InRange (UnpackedFloat.unpack .binary64 b) := by
  have hlt := exponentField_lt h
  have hbias : ((Format.binary64.exponentBias : Nat) : Int) = 1023 := rfl
  have hbits : ((Format.binary64.mantissaBitsWithoutImplicit : Nat) : Int) = 52 := rfl
  rw [UnpackedFloat.unpack, if_neg h]
  split
  · rename_i hzero
    split
    · exact .zero _
    · refine .finite _ _ _ _ ?_
      rw [hzero, hbias]
      decide
  · refine .finite _ _ _ _ ?_
    rw [hbias, hbits]
    change (((exponentField b).toNat : Int) - (1023 + 52) + 1075).toNat < 2047
    omega

theorem InRange.isFinite {u : UnpackedFloat} (h : InRange u) : u.isFinite = true := by
  cases h <;> rfl

theorem exponentField_pack {u : UnpackedFloat} (h : InRange u) :
    exponentField (UnpackedFloat.pack .binary64 u) ≠ -1#11 := by
  cases h with
  | zero s => cases s <;> decide
  | finite s m e hm he =>
    have hbias : e + (Format.binary64.exponentBias : Nat) + (52 : Nat) = e + 1075 := by
      change e + (1023 : Nat) + (52 : Nat) = e + 1075
      omega
    have hne : BitVec.ofNat 11 (e + 1075).toNat ≠ -1#11 := by
      intro heq
      have hval : (e + 1075).toNat % 2 ^ 11 = 2047 := congrArg BitVec.toNat heq
      omega
    simp only [exponentField, UnpackedFloat.pack]
    rw [hbias, if_neg (by omega)]
    split
    · rw [UnpackedFloat.unpackExponent_packComponents]
      exact hne
    · rw [UnpackedFloat.unpackExponent_packComponents]
      decide

theorem isFinite_ofBits {b : UInt64} (h : exponentField b.toBitVec ≠ -1#11) :
    (Float.ofBits b).isFinite = true := by
  change (UnpackedFloat.unpack .binary64 (UnpackedFloat.pack .binary64
    (UnpackedFloat.unpack .binary64 b.toBitVec))).isFinite = true
  exact (inRange_unpack (exponentField_pack (inRange_unpack h))).isFinite

theorem exponentField_ofNat {n : Nat} (h : n / 2 ^ 52 % 2048 ≠ 2047) :
    exponentField (UInt64.ofNat n).toBitVec ≠ -1#11 := by
  intro heq
  have hval := congrArg BitVec.toNat heq
  simp [exponentField, UnpackedFloat.unpackExponent, Nat.shiftRight_eq_div_pow] at hval
  omega

theorem isFinite_nearest (negative : Bool) {x : Quotient} (h : x.num < x.den * 2 ^ 64) :
    (nearest negative x).isFinite = true := by
  have hbits := nearestBits_lt h
  unfold nearest
  refine isFinite_ofBits (exponentField_ofNat ?_)
  simp only [infinityBits, fractionBits, signBit] at hbits ⊢
  cases negative <;> simp <;> omega

theorem isFinite_ofRatio {num : Int} {den : Nat} (h : num.natAbs < den * 2 ^ 64) :
    (ofRatio num den).isFinite = true :=
  isFinite_nearest _ h

end Binary64

namespace Table

theorem numberBytes_mul (length : Nat) : numberBytes * length = 8 * length := rfl

variable [Memory] {n : Nat}

theorem length_of_unaddressable (h : 2 ^ 60 ≤ Binary64.roundNat n)
    (hlt : Binary64.roundNat n < 2 ^ 63) : length n = .error .unaddressable := by
  have hbytes := numberBytes_mul (Binary64.roundNat n)
  simp only [length]
  split
  · omega
  split
  · omega
  split
  · rfl
  · omega

theorem length_of_full (h : numberBytes * Binary64.roundNat n < 2 ^ 63)
    (hfull : Memory.capacity ≤ Binary64.roundNat n) :
    length n = .error (.noMemory (Binary64.roundNat n)) := by
  have hbytes := numberBytes_mul (Binary64.roundNat n)
  simp only [length]
  split
  · omega
  split
  · omega
  split
  · omega
  · rfl

theorem length_of_empty (h : Binary64.roundNat n = 2 ^ 63) : length n = .ok 0 := by
  simp only [length]
  split
  · omega
  · rfl

theorem length_of_not_fits (h : ¬ Fits n) :
    (∃ fault, length n = .error fault) ∨ length n = .ok 0 := by
  simp only [length]
  split
  · exact .inl ⟨_, rfl⟩
  split
  · exact .inr rfl
  split
  · exact .inl ⟨_, rfl⟩
  split
  · exact .inl ⟨_, rfl⟩
  · exact absurd ⟨by omega, by omega⟩ h

/-- No table goes beyond the length that it is asked for. So it is where there is memory for
`2 ^ 53` numbers at most (`bounded_of_capacity_le`); a longer table has its length rounded. -/
class Bounded [Memory] : Prop where
  length_le : ∀ {n m : Nat}, length n = .ok m → m ≤ n

theorem bounded_of_capacity_le (h : Memory.capacity ≤ 2 ^ 53) : Bounded where
  length_le {n m} hlength := by
    by_cases hfits : Fits n
    · have hroom := hfits.room
      have hn : n < 2 ^ 53 := by
        by_contra hge
        have := Binary64.two_pow_le_roundNat (Nat.le_of_not_lt hge)
        omega
      rw [hfits.length_eq, Binary64.roundNat_of_lt hn] at hlength
      cases hlength
      exact Nat.le_refl n
    · rcases length_of_not_fits hfits with ⟨fault, hfault⟩ | hempty
      · rw [hfault] at hlength
        cases hlength
      · rw [hempty] at hlength
        cases hlength
        exact Nat.zero_le n

omit [Memory] in
theorem bounded_large : @Bounded .large :=
  @bounded_of_capacity_le .large (Nat.le_refl _)

end Table
end ProximityRanking
