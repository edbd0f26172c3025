import Mathlib
import ProximityRanking.Proofs.Rounding
/-!
Doubles in order, and where they become zero. All doubles but what is not a number stand in a linear
order that has both zeros at one place, so the ranking order is total and transitive. One over a
finite double is never rounded to zero, and adding zero changes nothing but the sign of a zero.
-/
set_option autoImplicit false

namespace ProximityRanking.Binary64

open Float.Model

theorem compare_toLex {β : Type} [LinearOrder β] (a b : ℤ) (x y : β) :
    compare (toLex (a, x)) (toLex (b, y)) = (compare a b).then (compare x y) :=
  congrFun (congrFun Prod.Lex.compare_def (toLex (a, x))) (toLex (b, y))

theorem compare_natCast (m n : Nat) : compare (m : ℤ) (n : ℤ) = compare m n := by
  rcases Nat.lt_trichotomy m n with h | rfl | h
  · rw [compare_lt_iff_lt.2 h, compare_lt_iff_lt.2 (Int.ofNat_lt.2 h)]
  · simp
  · rw [compare_gt_iff_gt.2 h, compare_gt_iff_gt.2 (Int.ofNat_lt.2 h)]

theorem compare_neg (a b : ℤ) : compare (-a) (-b) = (compare a b).swap := by
  rcases lt_trichotomy a b with h | rfl | h
  · rw [compare_lt_iff_lt.2 h, compare_gt_iff_gt.2 (neg_lt_neg h)]
    rfl
  · simp
  · rw [compare_gt_iff_gt.2 h, compare_lt_iff_lt.2 (neg_lt_neg h)]
    rfl

/-- Where a number stands among all: by its side of zero, then by its exponent, then by its
significand. -/
def standing : UnpackedFloat → ℤ ×ₗ ℤ ×ₗ ℤ
  | .infinity .negative => toLex (-2, toLex (0, 0))
  | .finite .negative m e _ => toLex (-1, toLex (-e, -m))
  | .zero _ => toLex (0, toLex (0, 0))
  | .finite .positive m e _ => toLex (1, toLex (e, m))
  | .infinity .positive => toLex (2, toLex (0, 0))
  | .notANumber => toLex (3, toLex (0, 0))

theorem compare_eq_standing {u v : UnpackedFloat} (hu : u ≠ .notANumber) (hv : v ≠ .notANumber) :
    u.compare v = some (compare (standing u) (standing v)) := by
  -- Only for two finite numbers on one side of zero is there more to compare than the sides.
  rcases u with (_ | _) | _ | s | ⟨(_ | _), m, e, hm⟩ <;>
    rcases v with (_ | _) | _ | s' | ⟨(_ | _), m', e', hm'⟩ <;>
    first
    | exact absurd rfl hu
    | exact absurd rfl hv
    | rfl
    | simp only [UnpackedFloat.compare, standing, compare_toLex, compare_natCast, compare_neg,
        Ordering.swap_then, compare_eq_iff_eq.2 rfl, Ordering.eq_then]

abbrev unpacked (x : Float) : UnpackedFloat :=
  x.toModel.unpack

theorem isUndefined_iff {x : Float} : Scalar.isUndefined x = true ↔ unpacked x = .notANumber := by
  have hbeq : (x == x) = (unpacked x).beq (unpacked x) := rfl
  rw [Scalar.isUndefined, hbeq]
  by_cases h : unpacked x = .notANumber
  · rw [h]
    exact ⟨fun _ => rfl, fun _ => rfl⟩
  · simp [UnpackedFloat.beq, compare_eq_standing h h, h]

section Compare

variable {x y : Float}

theorem compare_iff (test : Option Ordering → Bool) (P : Ordering → Prop)
    (hnone : test none = false) (hsome : ∀ o, test (some o) = true ↔ P o) :
    test ((unpacked x).compare (unpacked y)) = true ↔
      Scalar.isUndefined x = false ∧ Scalar.isUndefined y = false ∧
        P (compare (standing (unpacked x)) (standing (unpacked y))) := by
  by_cases hx : unpacked x = .notANumber
  · have hcompare : (unpacked x).compare (unpacked y) = none := by
      rw [hx]
      rfl
    simp [hcompare, hnone, isUndefined_iff.2 hx]
  · by_cases hy : unpacked y = .notANumber
    · have hcompare : (unpacked x).compare (unpacked y) = none := by
        rw [hy]
        cases unpacked x <;> rfl
      simp [hcompare, hnone, isUndefined_iff.2 hy]
    · have hx' := Bool.eq_false_iff.2 (mt isUndefined_iff.1 hx)
      have hy' := Bool.eq_false_iff.2 (mt isUndefined_iff.1 hy)
      simp [compare_eq_standing hx hy, hsome, hx', hy']

theorem le_iff : x ≤ y ↔ Scalar.isUndefined x = false ∧ Scalar.isUndefined y = false ∧
    standing (unpacked x) ≤ standing (unpacked y) := by
  have hle : x ≤ y ↔ (unpacked x).le (unpacked y) = true := decide_eq_true_iff
  rw [hle, ← compare_le_iff_le]
  exact compare_iff (·.any (·.isLE)) (· ≠ .gt) rfl fun o => by cases o <;> simp

theorem lt_iff : x < y ↔ Scalar.isUndefined x = false ∧ Scalar.isUndefined y = false ∧
    standing (unpacked x) < standing (unpacked y) := by
  have hlt : x < y ↔ (unpacked x).lt (unpacked y) = true := decide_eq_true_iff
  rw [hlt, ← compare_lt_iff_lt]
  exact compare_iff (· == some .lt) (· = .lt) rfl fun o => by cases o <;> simp

theorem beq_iff : (x == y) = true ↔ Scalar.isUndefined x = false ∧ Scalar.isUndefined y = false ∧
    standing (unpacked x) = standing (unpacked y) := by
  have hbeq : (x == y) = (unpacked x).beq (unpacked y) := rfl
  rw [hbeq, ← compare_eq_iff_eq (a := standing _)]
  exact compare_iff (· == some .eq) (· = .eq) rfl fun o => by cases o <;> simp

end Compare

theorem ranksBefore_iff {x y : Float} : Scalar.ranksBefore x y = true ↔
    Scalar.isUndefined y = true ∨ Scalar.isUndefined x = false ∧ Scalar.isUndefined y = false ∧
      standing (unpacked y) ≤ standing (unpacked x) := by
  rw [Scalar.ranksBefore, Bool.or_eq_true, decide_eq_true_iff, le_iff]
  tauto

theorem ranksBefore_trans {x y z : Float} (hxy : Scalar.ranksBefore x y = true)
    (hyz : Scalar.ranksBefore y z = true) : Scalar.ranksBefore x z = true := by
  rw [ranksBefore_iff] at *
  rcases hyz with hz | ⟨hy, hz, hle⟩
  · exact .inl hz
  · rcases hxy with hy' | ⟨hx, -, hle'⟩
    · rw [hy] at hy'
      cases hy'
    · exact .inr ⟨hx, hz, hle.trans hle'⟩

theorem ranksBefore_total (x y : Float) :
    (Scalar.ranksBefore x y || Scalar.ranksBefore y x) = true := by
  rw [Bool.or_eq_true, ranksBefore_iff, ranksBefore_iff]
  cases hx : Scalar.isUndefined x with
  | true => exact .inr (.inl rfl)
  | false =>
    cases hy : Scalar.isUndefined y with
    | true => exact .inl (.inl rfl)
    | false =>
      rcases le_total (standing (unpacked y)) (standing (unpacked x)) with hle | hle
      · exact .inl (.inr ⟨rfl, rfl, hle⟩)
      · exact .inr (.inr ⟨rfl, rfl, hle⟩)

open UnpackedFloat

theorem targetExponent_eq (e : ℤ) : Format.binary64.targetExponent e = max (e - 53) (-1074) := rfl

theorem mantissa_shiftRight (m : ExtendedMantissa) (k : Nat) :
    (m >>> k).mantissa = m.mantissa / 2 ^ k := by
  induction k with
  | zero => exact (Nat.div_one _).symm
  | succ k ih =>
    have hstep : (m >>> (k + 1)).mantissa = (m >>> k).mantissa / 2 := rfl
    rw [hstep, ih, Nat.div_div_eq_div_mul, Nat.pow_succ]

theorem mantissa_ofMantissaAndAccuracy (m : Nat) (accuracy : Accuracy) :
    (ExtendedMantissa.ofMantissaAndAccuracy m accuracy).mantissa = m := by
  rcases accuracy with _ | (_ | _ | _) <;> rfl

theorem le_roundToNearestEven (m : Nat) (accuracy : Accuracy) :
    m ≤ accuracy.roundToNearestEven m := by
  rcases accuracy with _ | (_ | _ | _) <;> simp [Accuracy.roundToNearestEven]

theorem shifted_bounds {m : Nat} (hm : 0 < m) {e : ℤ} (he : -1074 ≤ e) :
    0 < m / 2 ^ (Format.binary64.targetExponent (totalExponent m e) - e).toNat ∧
      m / 2 ^ (Format.binary64.targetExponent (totalExponent m e) - e).toNat < 2 ^ 53 := by
  have hlow : 2 ^ Nat.log2 m ≤ m := Nat.log2_self_le (by omega)
  have hhigh : m < 2 ^ (Nat.log2 m + 1) := Nat.lt_log2_self
  have hshift : (Format.binary64.targetExponent (totalExponent m e) - e).toNat =
      Nat.log2 m - 52 := by
    rw [targetExponent_eq, totalExponent]
    omega
  rw [hshift]
  constructor
  · refine Nat.div_pos (Nat.le_trans ?_ hlow) (Nat.two_pow_pos _)
    exact Nat.pow_le_pow_right (by decide) (Nat.sub_le _ _)
  · rw [Nat.div_lt_iff_lt_mul (Nat.two_pow_pos _), ← Nat.pow_add]
    exact Nat.lt_of_lt_of_le hhigh (Nat.pow_le_pow_right (by decide) (by omega))

theorem exists_roundWithAccuracy_eq (s : Sign) {m : Nat} (hm : 0 < m) {e : ℤ} (he : -1074 ≤ e)
    (accuracy : Accuracy) :
    ∃ m' e', ∃ hm' : 0 < m', roundWithAccuracy .binary64 s m e accuracy = .finite s m' e' hm' ∧
      m' < 2 ^ 53 ∧ -1074 ≤ e' := by
  obtain ⟨hfirst, -⟩ := shifted_bounds hm he
  unfold roundWithAccuracy shiftToTargetExponent shiftToExponent
  simp only [mantissa_shiftRight, mantissa_ofMantissaAndAccuracy]
  generalize (Format.binary64.targetExponent (totalExponent m e) - e).toNat = k at hfirst ⊢
  generalize hrounded : ExtendedMantissa.roundedMantissa _ = rounded
  have hpos : 0 < rounded := by
    rw [← hrounded, ExtendedMantissa.roundedMantissa, mantissa_shiftRight,
      mantissa_ofMantissaAndAccuracy]
    exact Nat.lt_of_lt_of_le hfirst (le_roundToNearestEven _ _)
  obtain ⟨hpos', hlt⟩ := shifted_bounds hpos (e := e + k) (by omega)
  rw [dif_neg (by omega)]
  exact ⟨_, _, hpos', rfl, hlt, by omega⟩

theorem pack_ne_packedZero (s s' : Sign) {m : Nat} (hm : 0 < m) (hlt : m < 2 ^ 53) {e : ℤ}
    (he : -1074 ≤ e) :
    UnpackedFloat.pack .binary64 (.finite s m e hm) ≠ packedZero .binary64 s' := by
  intro heq
  have hexponent := congrArg (fun b => (unpackExponent b).toNat) heq
  have hmantissa := congrArg (fun b => (unpackMantissa b).toNat) heq
  have hbias : e + (Format.binary64.exponentBias : Nat) + (52 : Nat) = e + 1075 := by
    change e + (1023 : Nat) + (52 : Nat) = e + 1075
    omega
  have hdigits : Format.binary64.mantissaBits = 53 := rfl
  simp only [UnpackedFloat.pack, packedInfinity, packedZero, hbias, hdigits] at hexponent hmantissa
  split at hexponent
  · simp at hexponent
  · split at hexponent
    · simp at hexponent
      omega
    · rename_i hfit hfew
      have hlog : Nat.log2 m < 53 := (Nat.log2_lt (by omega)).2 hlt
      have hsmall : m < 2 ^ 52 := (Nat.log2_lt (by omega)).1 (by omega)
      rw [if_neg hfit, if_neg hfew] at hmantissa
      simp at hmantissa
      omega

theorem bounds_of_unpack {b : BitVec 64} {s : Sign} {m : Nat} {e : ℤ} {hm : 0 < m}
    (h : UnpackedFloat.unpack .binary64 b = .finite s m e hm) :
    m < 2 ^ 53 ∧ -1074 ≤ e ∧ e ≤ 971 := by
  have hbias : ((Format.binary64.exponentBias : Nat) : Int) = 1023 := rfl
  have hbits : ((Format.binary64.mantissaBitsWithoutImplicit : Nat) : Int) = 52 := rfl
  have hmantissa : (@unpackMantissa .binary64 b).toNat < 2 ^ 52 := BitVec.isLt _
  rw [UnpackedFloat.unpack, hbias, hbits] at h
  split at h
  · split at h <;> cases h
  · rename_i hinf
    have hexponent := exponentField_lt hinf
    split at h
    · rename_i hzero
      split at h
      · cases h
      · obtain ⟨-, rfl, rfl⟩ := UnpackedFloat.finite.inj h
        rw [hzero]
        simp
        omega
    · rename_i hzero
      have hpos : 0 < (exponentField b).toNat := BitVec.toNat_pos_of_ne_zero hzero
      obtain ⟨-, rfl, rfl⟩ := UnpackedFloat.finite.inj h
      refine ⟨BitVec.isLt _, ?_, ?_⟩ <;> dsimp only [exponentField] at hexponent hpos <;> omega

theorem unpacked_one_div_ne_zero {x : Float} (hx : x.isFinite = true) (s : Sign) :
    unpacked (1.0 / x) ≠ .zero s := by
  have hdiv : unpacked (1.0 / x) = UnpackedFloat.unpack .binary64 (UnpackedFloat.pack .binary64
      (div .binary64 (.finite .positive (2 ^ 52) (-52) (by decide)) (unpacked x))) := rfl
  have hfinite : (unpacked x).isFinite = true := hx
  rw [hdiv, Ne, unpack_eq_zero_iff_of_valid valid_pack]
  rcases hu : unpacked x with _ | _ | s' | ⟨s', m, e, hm⟩
  · rw [hu] at hfinite
    cases hfinite
  · rw [hu] at hfinite
    cases hfinite
  · cases s' <;> cases s <;> decide
  · obtain ⟨hlt, hlow, hhigh⟩ := bounds_of_unpack hu
    have hlog : Nat.log2 (2 ^ 52) = 52 := by decide
    have hlog' : Nat.log2 m < 53 := (Nat.log2_lt (by omega)).2 hlt
    simp only [UnpackedFloat.div, divCore, totalExponent, hlog, targetExponent_eq]
    generalize htarget : min (-52 - e) _ = target
    -- The quotient is taken to enough digits for some to be left of it.
    have hquotient : 0 < (2 ^ 52) <<< (-52 - e - target).toNat / m := by
      refine Nat.div_pos ?_ hm
      rw [Nat.shiftLeft_eq, ← Nat.pow_add]
      refine Nat.le_of_lt (Nat.lt_of_lt_of_le hlt (Nat.pow_le_pow_right (by decide) ?_))
      omega
    obtain ⟨m', e', hm', hround, hlt', hlow'⟩ :=
      exists_roundWithAccuracy_eq (.positive / s') hquotient (e := target) (by omega) _
    rw [hround]
    exact pack_ne_packedZero _ _ hm' hlt' hlow'

theorem beq_zero_iff {x : Float} : (x == 0.0) = true ↔ ∃ s, unpacked x = .zero s := by
  have hzero : unpacked 0.0 = .zero .positive := rfl
  have hdefined : Scalar.isUndefined (0.0 : Float) = false := by decide
  rw [beq_iff, hzero, ← Bool.not_eq_true, isUndefined_iff]
  rcases hu : unpacked x with (_ | _) | _ | s | ⟨(_ | _), m, e, hm⟩ <;> simp [standing, hdefined]

theorem one_div_beq_zero {x : Float} (hx : x.isFinite = true) : (1.0 / x == 0.0) = false := by
  rw [← Bool.not_eq_true, beq_zero_iff]
  intro h
  obtain ⟨s, hs⟩ := h
  exact unpacked_one_div_ne_zero hx s hs

theorem isFinite_ofInt {n : Int} (h : n.natAbs < 2 ^ 64) : (ofInt n).isFinite = true :=
  isFinite_nearest _ (by simpa using h)

theorem ofModel_pack_unpacked (x : Float) : Float.ofModel (Float.Model.pack (unpacked x)) = x :=
  Float.ofBits_toBits x

end ProximityRanking.Binary64
