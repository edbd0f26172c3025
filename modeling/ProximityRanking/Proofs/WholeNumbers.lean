import Mathlib
import ProximityRanking.Proofs.Doubles
/-!
Whole numbers among the doubles. Up to 53 binary digits a whole number is a double and adding one
gives the double of the next, so a weight that is added up from ones counts them without an error.
-/
set_option autoImplicit false

namespace ProximityRanking.Binary64

open Float.Model UnpackedFloat

/-- The bit pattern of a positive double with exponent field `e + 1` and the 53 binary digits `m`;
the first of these adds one to the exponent field. -/
structure Stores (bits e m : Nat) : Prop where
  bits_eq : bits = e * 2 ^ 52 + m
  exponent_lt : e < 2046
  le_digits : 2 ^ 52 ≤ m
  digits_lt : m < 2 ^ 53

namespace Stores

variable {b : BitVec 64} {e m : Nat}

theorem digits_pos {bits : Nat} (h : Stores bits e m) : 0 < m :=
  Nat.lt_of_lt_of_le (by decide) h.le_digits

theorem exponentField_eq (h : Stores b.toNat e m) : (exponentField b).toNat = e + 1 := by
  obtain ⟨hbits, he, hlow, hhigh⟩ := h
  simp [exponentField, unpackExponent, Nat.shiftRight_eq_div_pow, hbits]
  omega

theorem mantissaField_eq (h : Stores b.toNat e m) :
    (@unpackMantissa .binary64 b).toNat = m - 2 ^ 52 := by
  obtain ⟨hbits, he, hlow, hhigh⟩ := h
  simp [unpackMantissa, hbits]
  omega

theorem signField_eq (h : Stores b.toNat e m) : @unpackSign .binary64 b = 0#1 := by
  obtain ⟨hbits, he, hlow, hhigh⟩ := h
  apply BitVec.eq_of_toNat_eq
  simp [unpackSign, Nat.shiftRight_eq_div_pow, hbits]
  omega

theorem exponentField_ne (h : Stores b.toNat e m) :
    exponentField b ≠ -1#11 ∧ exponentField b ≠ 0#11 := by
  have hexponent := h.exponentField_eq
  have he := h.exponent_lt
  constructor
  · intro heq
    have hval : (exponentField b).toNat = 2047 := congrArg BitVec.toNat heq
    omega
  · intro heq
    have hval : (exponentField b).toNat = 0 := congrArg BitVec.toNat heq
    omega

theorem unpack_eq (h : Stores b.toNat e m) :
    UnpackedFloat.unpack .binary64 b =
      .finite .positive m ((e : Int) - 1074) h.digits_pos := by
  have hexponent := h.exponentField_eq
  have hmantissa := h.mantissaField_eq
  have hfull : (1#1 ++ @unpackMantissa .binary64 b).toNat = m := by
    have hlow := h.le_digits
    rw [BitVec.toNat_append, ← Nat.shiftLeft_add_eq_or_of_lt (BitVec.isLt _), hmantissa]
    simp [Nat.shiftLeft_eq]
    omega
  have hbias : ((Format.binary64.exponentBias : Nat) : Int) = 1023 := rfl
  have hbits : ((Format.binary64.mantissaBitsWithoutImplicit : Nat) : Int) = 52 := rfl
  rw [UnpackedFloat.unpack, if_neg h.exponentField_ne.1, if_neg h.exponentField_ne.2,
    h.signField_eq, hbias, hbits]
  congr 1
  dsimp only [exponentField] at hexponent
  omega

theorem pack_unpack_eq (h : Stores b.toNat e m) :
    UnpackedFloat.pack .binary64 (UnpackedFloat.unpack .binary64 b) = b :=
  pack_unpack_of_valid ⟨fun heq => absurd heq h.exponentField_ne.1⟩

theorem toNat_toBitVec {bits : Nat} (h : Stores bits e m) :
    (UInt64.ofNat bits).toBitVec.toNat = bits := by
  obtain ⟨hbits, he, -, hhigh⟩ := h
  simp
  omega

theorem toNat_toBits_ofBits {bits : Nat} (h : Stores bits e m) :
    (Float.ofBits (UInt64.ofNat bits)).toBits.toNat = bits := by
  have hnat := h.toNat_toBitVec
  have hpack := pack_unpack_eq (b := (UInt64.ofNat bits).toBitVec) (hnat ▸ h)
  exact (congrArg BitVec.toNat hpack).trans hnat

theorem parts_eq {x : Float} (h : Stores x.toBits.toNat e m) :
    parts x = ⟨false, m, (e : Int) - 1074⟩ := by
  obtain ⟨hbits, he, hlow, hhigh⟩ := h
  have hpositive : isNegative x = false := by
    simp only [isNegative, signBit, hbits, decide_eq_false_iff_not]
    omega
  have hfield : x.toBits.toNat % signBit / 2 ^ fractionBits = e + 1 := by
    simp only [signBit, fractionBits, hbits]
    omega
  have hfraction : x.toBits.toNat % signBit % 2 ^ fractionBits + 2 ^ fractionBits = m := by
    simp only [signBit, fractionBits, hbits]
    omega
  have hexponent : minExponent + ((e + 1 : Nat) : Int) - 1 = (e : Int) - 1074 := by
    simp only [minExponent]
    omega
  simp only [parts, hfield, hpositive, hfraction, hexponent]
  simp

end Stores

theorem significand_bounds {n : Nat} (hn : 0 < n) (h : n < 2 ^ 53) :
    Nat.log2 n ≤ 52 ∧ 2 ^ 52 ≤ n * 2 ^ (52 - Nat.log2 n) ∧
      n * 2 ^ (52 - Nat.log2 n) < 2 ^ 53 := by
  have hlog : Nat.log2 n < 53 := (Nat.log2_lt (by omega)).2 h
  have hlow := Nat.mul_le_mul_right (2 ^ (52 - Nat.log2 n)) (Nat.log2_self_le (n := n) (by omega))
  have hhigh := Nat.mul_lt_mul_of_pos_right (Nat.lt_log2_self (n := n))
    (Nat.two_pow_pos (52 - Nat.log2 n))
  have hfull : Nat.log2 n + (52 - Nat.log2 n) = 52 := by omega
  have hover : Nat.log2 n + 1 + (52 - Nat.log2 n) = 53 := by omega
  rw [← Nat.pow_add, hfull] at hlow
  rw [← Nat.pow_add, hover] at hhigh
  exact ⟨by omega, hlow, hhigh⟩

theorem stores_nearestBits {n : Nat} (hn : 0 < n) (h : n < 2 ^ 53) :
    Stores (nearestBits ⟨n, 1⟩) (Nat.log2 n + 1022) (n * 2 ^ (52 - Nat.log2 n)) := by
  obtain ⟨hlog, hlow, hhigh⟩ := significand_bounds hn h
  have hone : Nat.log2 1 = 0 := by decide
  have hshift : (-((Nat.log2 n : Int) - 52)).toNat = 52 - Nat.log2 n := by omega
  have hscale : (Quotient.mk n 1).scale 2 (-((Nat.log2 n : Int) - 52)) =
      ⟨n * 2 ^ (52 - Nat.log2 n), 1⟩ := by
    rw [Quotient.scale, if_pos (by omega), hshift]
  have hunit : unitExponent ⟨n, 1⟩ = (Nat.log2 n : Int) - 52 := by
    simp only [unitExponent, hone, fractionBits, minExponent, Int.sub_zero, Nat.cast_zero,
      Nat.cast_ofNat, hscale]
    rw [if_neg (by omega)]
    omega
  have hround : (Quotient.mk (n * 2 ^ (52 - Nat.log2 n)) 1).round = n * 2 ^ (52 - Nat.log2 n) := by
    have hexact := roundDiv_mul (n * 2 ^ (52 - Nat.log2 n)) 1 Nat.one_pos
    rwa [Nat.one_mul] at hexact
  have hbits : nearestBits ⟨n, 1⟩ =
      (Nat.log2 n + 1022) * 2 ^ 52 + n * 2 ^ (52 - Nat.log2 n) := by
    rw [nearestBits, if_neg (by simp; omega)]
    simp only [hunit, hscale, hround, infinityBits, fractionBits, minExponent]
    omega
  exact ⟨hbits, by omega, hlow, hhigh⟩

theorem ofInt_natCast (n : Nat) :
    ofInt n = Float.ofBits (UInt64.ofNat (nearestBits ⟨n, 1⟩)) := by
  have hsign : ¬ (n : Int) < 0 := by omega
  simp [ofInt, nearest, hsign]

theorem stores_ofInt {n : Nat} (hn : 0 < n) (h : n < 2 ^ 53) :
    Stores (ofInt n).toBits.toNat (Nat.log2 n + 1022) (n * 2 ^ (52 - Nat.log2 n)) := by
  rw [ofInt_natCast, (stores_nearestBits hn h).toNat_toBits_ofBits]
  exact stores_nearestBits hn h

def whole (n : Nat) (hn : 0 < n) : UnpackedFloat :=
  .finite .positive (n * 2 ^ (52 - Nat.log2 n)) (Nat.log2 n - 52)
    (Nat.mul_pos hn (Nat.two_pow_pos _))

theorem unpacked_ofInt {n : Nat} (hn : 0 < n) (h : n < 2 ^ 53) :
    unpacked (ofInt n) = whole n hn := by
  have hexponent : ((Nat.log2 n + 1022 : Nat) : Int) - 1074 = Nat.log2 n - 52 := by omega
  have hunpack : unpacked (ofInt n) =
      .finite .positive _ _ (stores_ofInt hn h).digits_pos := Stores.unpack_eq (stores_ofInt hn h)
  simp only [hunpack, hexponent, whole]

/-- A double that is a whole number and nothing else. -/
structure IsWhole (x : Float) (n : Nat) : Prop where
  finite : x.isFinite = true
  nonnegative : (parts x).negative = false
  value : (parts x).quotient.num = n * (parts x).quotient.den

theorem scale_neg_natCast (m k : Nat) :
    (Quotient.mk m 1).scale 2 (-(k : Int)) = ⟨m, 2 ^ k⟩ := by
  cases k with
  | zero => simp [Quotient.scale]
  | succ k =>
    rw [Quotient.scale, if_neg (by omega)]
    simp

theorem isWhole_ofInt {n : Nat} (hn : 0 < n) (h : n < 2 ^ 53) : IsWhole (ofInt n) n := by
  obtain ⟨hlog, -, -⟩ := significand_bounds hn h
  have hparts := (stores_ofInt hn h).parts_eq
  -- The exponent goes down by as much as the digits were moved up.
  have hexponent : ((Nat.log2 n + 1022 : Nat) : Int) - 1074 = -((52 - Nat.log2 n : Nat) : Int) := by
    omega
  rw [hexponent] at hparts
  refine ⟨isFinite_ofInt (by omega), ?_, ?_⟩
  · rw [hparts]
  · rw [hparts, Parts.quotient, scale_neg_natCast]

theorem shiftRight_mul_two_pow (m k : Nat) :
    ExtendedMantissa.mk (m * 2 ^ k) false false >>> k = ⟨m, false, false⟩ := by
  induction k generalizing m with
  | zero => simp [HShiftRight.hShiftRight, Nat.repeat]
  | succ k ih =>
    have hstep : ExtendedMantissa.mk (m * 2 ^ (k + 1)) false false >>> (k + 1) =
        (ExtendedMantissa.mk (m * 2 * 2 ^ k) false false >>> k).shiftRightOne := by
      rw [Nat.mul_assoc, ← Nat.pow_succ']
      rfl
    simp [hstep, ih, ExtendedMantissa.shiftRightOne]

section Rounding

variable {m : Nat} (hlow : 2 ^ 52 ≤ m) (hhigh : m < 2 ^ 53) (k : Nat) {e : Int} (he : -1074 ≤ e)
include hlow hhigh he

theorem targetExponent_mul_two_pow :
    Format.binary64.targetExponent (totalExponent (m * 2 ^ k) (e - k)) = e := by
  have hstart := Nat.mul_le_mul_right (2 ^ k) hlow
  have hend := Nat.mul_lt_mul_of_pos_right hhigh (Nat.two_pow_pos k)
  have hnext : 53 + k = 52 + k + 1 := by omega
  rw [← Nat.pow_add] at hstart
  rw [← Nat.pow_add, hnext] at hend
  have hpos := Nat.two_pow_pos (52 + k)
  have hlog : Nat.log2 (m * 2 ^ k) = 52 + k := (Nat.log2_eq_iff (by omega)).2 ⟨hstart, hend⟩
  rw [targetExponent_eq, totalExponent, hlog]
  omega

theorem shiftToTargetExponent_mul_two_pow :
    shiftToTargetExponent .binary64 (m * 2 ^ k) (e - k) .exact = (⟨m, false, false⟩, e) := by
  have hshift : (e - (e - k)).toNat = k := by omega
  have hsum : e - k + k = e := by omega
  simp only [shiftToTargetExponent, targetExponent_mul_two_pow hlow hhigh k he, shiftToExponent,
    hshift, hsum, ExtendedMantissa.ofMantissaAndAccuracy, shiftRight_mul_two_pow]

theorem round_mul_two_pow :
    UnpackedFloat.round .binary64 .positive (m * 2 ^ k) (e - k) =
      .finite .positive m e (Nat.lt_of_lt_of_le (by decide) hlow) := by
  have hfirst := shiftToTargetExponent_mul_two_pow hlow hhigh k he
  have hsecond := shiftToTargetExponent_mul_two_pow hlow hhigh 0 he
  have hne : m ≠ 0 := by omega
  simp only [Nat.pow_zero, Nat.mul_one, Nat.cast_zero, Int.sub_zero] at hsecond
  simp [UnpackedFloat.round, decreaseExponent, targetExponent_mul_two_pow hlow hhigh k he,
    roundWithAccuracy, hfirst, ExtendedMantissa.roundedMantissa, ExtendedMantissa.accuracy,
    Accuracy.roundToNearestEven, hsecond, hne]

end Rounding

theorem significand_mul_two_pow {n : Nat} (h : Nat.log2 n ≤ 52) :
    n * 2 ^ (52 - Nat.log2 n) * 2 ^ Nat.log2 n = n * 2 ^ 52 := by
  rw [Nat.mul_assoc, ← Nat.pow_add, Nat.sub_add_cancel h]

theorem add_whole_one {n : Nat} (hn : 0 < n) (h : n + 1 < 2 ^ 53) :
    UnpackedFloat.add .binary64 (whole n hn) (.finite .positive (2 ^ 52) (-52) (by decide)) =
      whole (n + 1) (Nat.succ_pos n) := by
  obtain ⟨hlog, -, -⟩ := significand_bounds hn (by omega)
  obtain ⟨hlog', hlow, hhigh⟩ := significand_bounds (Nat.succ_pos n) h
  have hround := round_mul_two_pow hlow hhigh (Nat.log2 (n + 1))
    (e := (Nat.log2 (n + 1) : Int) - 52) (by omega)
  have hexponent : (Nat.log2 (n + 1) : Int) - 52 - Nat.log2 (n + 1) = -52 := by omega
  rw [significand_mul_two_pow hlog', hexponent] at hround
  have hunit : min ((Nat.log2 n : Int) - 52) (-52) = -52 := by omega
  have hshift : ((Nat.log2 n : Int) - 52 - -52).toNat = Nat.log2 n := by omega
  have hsum : ((n * 2 ^ 52 : Nat) : Int) + (2 ^ 52 : Nat) = ((n + 1) * 2 ^ 52 : Nat) := by
    omega
  have hpos : compare (((n + 1) * 2 ^ 52 : Nat) : Int) 0 = .gt := Int.compare_eq_gt.2 (by omega)
  simp only [UnpackedFloat.add, whole, decreaseExponent, hunit, hshift, Nat.shiftLeft_eq,
    significand_mul_two_pow hlog, Int.sub_self, Int.toNat_zero, Nat.pow_zero, Nat.mul_one,
    Sign.apply, hsum, UnpackedFloat.normalize, hpos, Int.toNat_natCast]
  exact hround

theorem ofInt_add_one {n : Nat} (hn : 0 < n) (h : n + 1 < 2 ^ 53) :
    ofInt n + 1.0 = ofInt (n + 1 : Nat) := by
  have hadd : ofInt n + 1.0 = Float.ofModel (Float.Model.pack (UnpackedFloat.add .binary64
      (unpacked (ofInt n)) (.finite .positive (2 ^ 52) (-52) (by decide)))) := rfl
  rw [hadd, unpacked_ofInt hn (by omega), add_whole_one hn h, ← unpacked_ofInt (Nat.succ_pos n) h,
    ofModel_pack_unpacked]

theorem foldl_add_one {β : Type} (l : List β) (h : l.length + 1 < 2 ^ 53) :
    l.foldl (fun x _ => x + 1.0) (1.0 : Float) = ofInt (l.length + 1 : Nat) := by
  induction l using List.reverseRecOn with
  | nil =>
    have hone : (1.0 : Float) = ofInt 1 := by decide
    simpa using hone
  | append_singleton l x ih =>
    simp only [List.length_append, List.length_singleton] at h
    have hnext := ofInt_add_one (Nat.succ_pos l.length) h
    simpa [ih (by omega)] using hnext

end ProximityRanking.Binary64
