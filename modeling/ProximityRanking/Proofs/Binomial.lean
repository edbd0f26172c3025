import Mathlib.Analysis.Complex.ExponentialBounds
import Mathlib.Analysis.SpecialFunctions.Gamma.Basic
import Mathlib.Analysis.SpecialFunctions.Log.Base
import Mathlib.Data.Nat.Choose.Cast
import ProximityRanking.Proofs.Guards
import ProximityRanking.Proofs.Retrieval
import ProximityRanking.Scoring.Binomial
/-!
The binomial event behind the score. With `n` windows that match with probability `1 / n` each, the
probabilities of `k` matches add up to one, so the information of each of them is not negative.
Each is the one before times a ratio that falls with `k`; this is why more matches score higher
although the information is divided among them.
-/
set_option autoImplicit false

namespace ProximityRanking

/-- Logarithms that are the mathematical functions wherever these are defined. -/
structure RealLogs.Mathematical [RealLogs] : Prop where
  log : ∀ x, 0 < x → RealLogs.log x = Real.log x
  lnGamma : ∀ x, 0 < x → RealLogs.lnGamma x = Real.log (Real.Gamma x)

theorem RealLogs.mathematical_natural : @RealLogs.Mathematical .natural :=
  @RealLogs.Mathematical.mk .natural (fun _ _ => rfl) fun x _ => Real.log_abs (Real.Gamma x)

namespace Scoring

/-- The probability of `k` matches among `n` windows that match with probability `1 / n` each. -/
noncomputable def matchProbability (n k : ℕ) : ℝ :=
  n.choose k * (1 / n) ^ k * (1 - 1 / n) ^ (n - k)

variable {n k : ℕ}

theorem matchProbability_eq_div (hn : 1 ≤ n) (hk : k ≤ n) :
    matchProbability n k = n.choose k * ((n : ℝ) - 1) ^ (n - k) / (n : ℝ) ^ n := by
  have hne : (n : ℝ) ≠ 0 := by positivity
  have hq : 1 - 1 / (n : ℝ) = ((n : ℝ) - 1) / n := by field_simp
  have hpow : (n : ℝ) ^ n = (n : ℝ) ^ k * (n : ℝ) ^ (n - k) := by
    rw [← pow_add, Nat.add_sub_of_le hk]
  rw [matchProbability, hq, div_pow, div_pow, one_pow, hpow]
  field_simp

theorem complement_nonneg (n : ℕ) : 0 ≤ 1 - 1 / (n : ℝ) := by
  rcases Nat.eq_zero_or_pos n with rfl | hn
  · simp
  · have h1 : (1 : ℝ) ≤ n := by exact_mod_cast hn
    rw [sub_nonneg, div_le_one (by linarith)]
    exact h1

theorem complement_pos (hn : 2 ≤ n) : 0 < 1 - 1 / (n : ℝ) := by
  have h2 : (2 : ℝ) ≤ n := by exact_mod_cast hn
  rw [sub_pos, div_lt_one (by linarith)]
  linarith

theorem matchProbability_nonneg (n k : ℕ) : 0 ≤ matchProbability n k := by
  have hq := complement_nonneg n
  unfold matchProbability
  positivity

theorem matchProbability_pos (hn : 1 ≤ n) (hk : k ≤ n) (h : ¬ (n = 1 ∧ k = 0)) :
    0 < matchProbability n k := by
  have hchoose : (0 : ℝ) < n.choose k := by exact_mod_cast Nat.choose_pos hk
  have hp : 0 < (1 / (n : ℝ)) ^ k := by positivity
  have hq : 0 < (1 - 1 / (n : ℝ)) ^ (n - k) := by
    rcases Nat.lt_or_ge 1 n with h2 | h1
    · exact pow_pos (complement_pos h2) _
    · have hnk : n - k = 0 := by omega
      rw [hnk, pow_zero]
      exact one_pos
  exact mul_pos (mul_pos hchoose hp) hq

theorem sum_matchProbability (n : ℕ) :
    ∑ k ∈ Finset.range (n + 1), matchProbability n k = 1 := by
  calc ∑ k ∈ Finset.range (n + 1), matchProbability n k
      = ∑ k ∈ Finset.range (n + 1), (1 / (n : ℝ)) ^ k * (1 - 1 / n) ^ (n - k) * n.choose k :=
        Finset.sum_congr rfl fun k _ => by unfold matchProbability; ring
    _ = (1 / (n : ℝ) + (1 - 1 / n)) ^ n := (add_pow _ _ n).symm
    _ = 1 := by rw [add_sub_cancel, one_pow]

theorem matchProbability_le_one (hk : k ≤ n) : matchProbability n k ≤ 1 := by
  rw [← sum_matchProbability n]
  exact Finset.single_le_sum (fun i _ => matchProbability_nonneg n i)
    (Finset.mem_range.2 (Nat.lt_succ_of_le hk))

theorem matchProbability_lt_one (hn : 2 ≤ n) (h1 : 1 ≤ k) (hk : k ≤ n) :
    matchProbability n k < 1 := by
  have hnone : 0 < matchProbability n 0 :=
    matchProbability_pos (by omega) (Nat.zero_le n) (by omega)
  rw [← sum_matchProbability n]
  refine Finset.single_lt_sum (i := k) (j := 0) (by omega) ?_ ?_ hnone
    fun i _ _ => matchProbability_nonneg n i
  · exact Finset.mem_range.2 (by omega)
  · exact Finset.mem_range.2 (by omega)

theorem matchProbability_one_one : matchProbability 1 1 = 1 := by
  simp [matchProbability]

noncomputable def matchRatio (n k : ℕ) : ℝ :=
  (n - k) / ((k + 1) * (n - 1))

theorem matchProbability_succ (hn : 2 ≤ n) (hk : k < n) :
    matchProbability n (k + 1) = matchProbability n k * matchRatio n k := by
  have hchoose : (n.choose (k + 1) : ℝ) * (k + 1) = n.choose k * (n - k) := by
    have h := Nat.choose_succ_right_eq n k
    rw [← Nat.cast_sub hk.le]
    exact_mod_cast h
  have hpow : ((n : ℝ) - 1) ^ (n - k) = ((n : ℝ) - 1) ^ (n - (k + 1)) * (n - 1) := by
    rw [← pow_succ]
    congr 1
    omega
  have h2 : (2 : ℝ) ≤ n := by exact_mod_cast hn
  have hm : (n : ℝ) - 1 ≠ 0 := by linarith
  have hk1 : (k : ℝ) + 1 ≠ 0 := by positivity
  have hne : (n : ℝ) ^ n ≠ 0 := by positivity
  rw [matchProbability_eq_div (by omega) (by omega), matchProbability_eq_div (by omega) hk.le,
    matchRatio, hpow]
  field_simp
  linear_combination hchoose

theorem matchRatio_nonneg (hn : 1 ≤ n) (hk : k ≤ n) : 0 ≤ matchRatio n k := by
  have h1 : (1 : ℝ) ≤ n := by exact_mod_cast hn
  have hk' : (k : ℝ) ≤ n := by exact_mod_cast hk
  exact div_nonneg (by linarith) (mul_nonneg (by positivity) (by linarith))

theorem matchRatio_succ_le (hn : 2 ≤ n) (hk : k < n) : matchRatio n (k + 1) ≤ matchRatio n k := by
  have h2 : (2 : ℝ) ≤ n := by exact_mod_cast hn
  have hk' : (k : ℝ) + 1 ≤ n := by exact_mod_cast hk
  have hm : (0 : ℝ) < n - 1 := by linarith
  unfold matchRatio
  push_cast
  gcongr <;> linarith

theorem matchRatio_pos (hn : 2 ≤ n) (hk : k < n) : 0 < matchRatio n k := by
  have h2 : (2 : ℝ) ≤ n := by exact_mod_cast hn
  have hk' : (k : ℝ) < n := by exact_mod_cast hk
  exact div_pos (by linarith) (mul_pos (by positivity) (by linarith))

theorem matchRatio_one (hn : 2 ≤ n) : matchRatio n 1 = 1 / 2 := by
  have h2 : (2 : ℝ) ≤ n := by exact_mod_cast hn
  have hm : (n : ℝ) - 1 ≠ 0 := by linarith
  rw [matchRatio, Nat.cast_one]
  field_simp
  norm_num

/-- The probability of a single match never falls to a quarter: its inverse is some
`(1 + 1 / m) ^ m`, which stays below the base of the natural logarithm. -/
theorem quarter_lt_matchProbability_one (hn : 2 ≤ n) : 1 / 4 < matchProbability n 1 := by
  obtain ⟨m, rfl⟩ : ∃ m, n = m + 1 := ⟨n - 1, by omega⟩
  have hm : (0 : ℝ) < m := by exact_mod_cast (by omega : 0 < m)
  have hinverse : matchProbability (m + 1) 1 = 1 / (1 / (m : ℝ) + 1) ^ m := by
    have hcomplement : 1 - 1 / ((m : ℝ) + 1) = 1 / (1 / m + 1) := by
      field_simp
      ring
    rw [matchProbability, Nat.choose_one_right, Nat.add_sub_cancel]
    push_cast
    rw [hcomplement, pow_one, mul_one_div_cancel (by positivity), one_mul, one_div_pow]
  have hbelow : (1 / (m : ℝ) + 1) ^ m < 4 :=
    calc (1 / (m : ℝ) + 1) ^ m
        ≤ Real.exp (1 / m) ^ m := by gcongr; exact Real.add_one_le_exp _
      _ = Real.exp 1 := by rw [← Real.exp_nat_mul, mul_one_div_cancel hm.ne']
      _ < 4 := Real.exp_one_lt_three.trans (by norm_num)
  rw [hinverse]
  exact one_div_lt_one_div_of_lt (by positivity) hbelow

theorem matchRatio_pow_lt (hn : 2 ≤ n) (h1 : 1 ≤ k) (hk : k < n) :
    matchRatio n k ^ (k + 1) < matchProbability n k := by
  -- Both sides are multiplied by the ratio from `k` to `k + 1`; the next ratio is smaller still.
  induction k, h1 using Nat.le_induction with
  | base =>
    have hquarter := quarter_lt_matchProbability_one hn
    rw [matchRatio_one hn]
    calc ((1 : ℝ) / 2) ^ (1 + 1) = 1 / 4 := by norm_num
      _ < matchProbability n 1 := hquarter
  | succ k h1 ih =>
    have hbefore : k < n := by omega
    calc matchRatio n (k + 1) ^ (k + 1 + 1)
        ≤ matchRatio n k ^ (k + 1 + 1) :=
          pow_le_pow_left₀ (matchRatio_nonneg (by omega) hk.le) (matchRatio_succ_le hn hbefore) _
      _ = matchRatio n k ^ (k + 1) * matchRatio n k := pow_succ _ _
      _ < matchProbability n k * matchRatio n k :=
          mul_lt_mul_of_pos_right (ih hbefore) (matchRatio_pos hn hbefore)
      _ = matchProbability n (k + 1) := (matchProbability_succ hn hbefore).symm

theorem matchProbability_succ_pow_lt (hn : 2 ≤ n) (h1 : 1 ≤ k) (hk : k < n) :
    matchProbability n (k + 1) ^ (k + 1) < matchProbability n k ^ (k + 2) := by
  have hpos : 0 < matchProbability n k := matchProbability_pos (by omega) hk.le (by omega)
  calc matchProbability n (k + 1) ^ (k + 1)
      = matchProbability n k ^ (k + 1) * matchRatio n k ^ (k + 1) := by
        rw [matchProbability_succ hn hk, mul_pow]
    _ < matchProbability n k ^ (k + 1) * matchProbability n k :=
        mul_lt_mul_of_pos_left (matchRatio_pow_lt hn h1 hk) (pow_pos hpos _)
    _ = matchProbability n k ^ (k + 2) := (pow_succ _ _).symm

/-- The information in bits of `k` matches among `n` windows, divided by one more than `k`. -/
noncomputable def matchInformation (n k : ℕ) : ℝ :=
  -RealLogs.natural.log2 (matchProbability n k) / (1 + k)

theorem matchInformation_eq_logb (n k : ℕ) :
    matchInformation n k = -Real.logb 2 (matchProbability n k) / (1 + k) :=
  rfl

theorem matchInformation_nonneg (hk : k ≤ n) : 0 ≤ matchInformation n k := by
  have hlog : Real.logb 2 (matchProbability n k) ≤ 0 :=
    Real.logb_nonpos (by norm_num) (matchProbability_nonneg n k) (matchProbability_le_one hk)
  rw [matchInformation_eq_logb]
  exact div_nonneg (by linarith) (by positivity)

theorem matchInformation_pos (hn : 2 ≤ n) (h1 : 1 ≤ k) (hk : k ≤ n) : 0 < matchInformation n k := by
  have hlog : Real.logb 2 (matchProbability n k) < 0 :=
    Real.logb_neg (by norm_num) (matchProbability_pos (by omega) hk (by omega))
      (matchProbability_lt_one hn h1 hk)
  rw [matchInformation_eq_logb]
  exact div_pos (by linarith) (by positivity)

theorem matchInformation_one_one : matchInformation 1 1 = 0 := by
  rw [matchInformation_eq_logb, matchProbability_one_one, Real.logb_one, neg_zero, zero_div]

theorem matchInformation_eq_zero_iff (h1 : 1 ≤ k) (hk : k ≤ n) :
    matchInformation n k = 0 ↔ n = 1 := by
  constructor
  · intro hzero
    by_contra hne
    exact (matchInformation_pos (by omega) h1 hk).ne' hzero
  · intro hone
    subst hone
    obtain rfl : k = 1 := by omega
    exact matchInformation_one_one

theorem matchInformation_lt_succ (hn : 2 ≤ n) (h1 : 1 ≤ k) (hk : k < n) :
    matchInformation n k < matchInformation n (k + 1) := by
  have hpos : 0 < matchProbability n (k + 1) := matchProbability_pos (by omega) hk (by omega)
  have hlog : (k + 1) * Real.logb 2 (matchProbability n (k + 1)) <
      (k + 2) * Real.logb 2 (matchProbability n k) := by
    have h := Real.logb_lt_logb (by norm_num : (1 : ℝ) < 2) (pow_pos hpos _)
      (matchProbability_succ_pow_lt hn h1 hk)
    rw [Real.logb_pow, Real.logb_pow] at h
    exact_mod_cast h
  rw [matchInformation_eq_logb, matchInformation_eq_logb,
    div_lt_div_iff₀ (by positivity) (by positivity)]
  push_cast
  linarith

section Exact

variable [RealLogs] (h : RealLogs.Mathematical)

theorem xLog_of_ne_zero {x : ℝ} (hx : x ≠ 0) (y : ℝ) : xLog x y = x * RealLogs.log y := by
  have hne : (x == 0.0) = false := by rw [Scalar.real_zero]; exact beq_false_of_ne hx
  rw [xLog, hne, Bool.false_and]
  rfl

theorem xLog_zero (y : ℝ) : xLog 0 y = 0 := by
  have hzero : ((0 : ℝ) == 0.0) = true := by rw [Scalar.real_zero]; exact beq_self_eq_true _
  have hdefined : Scalar.isUndefined y = false := by simp [Scalar.isUndefined]
  rw [xLog, hzero, hdefined]
  exact Scalar.real_zero

include h

theorem xLog_natCast {m : ℕ} {y : ℝ} (hy : m ≠ 0 → 0 < y) : xLog (m : ℝ) y = Real.log (y ^ m) := by
  rcases Nat.eq_zero_or_pos m with rfl | hm
  · rw [Nat.cast_zero, xLog_zero, pow_zero, Real.log_one]
  · have hm : m ≠ 0 := by omega
    rw [xLog_of_ne_zero (Nat.cast_ne_zero.2 hm), h.log y (hy hm), Real.log_pow]

theorem lnGamma_natCast_add_one (m : ℕ) :
    RealLogs.lnGamma (m + 1) = Real.log (m.factorial : ℝ) := by
  rw [h.lnGamma _ (by positivity), Real.Gamma_nat_eq_factorial]

theorem logBinomial_eq_log (hn : 1 ≤ n) (hk : k ≤ n) (hdomain : ¬ (n = 1 ∧ k = 0)) :
    logBinomial (k : ℝ) (n : ℝ) = Real.log (matchProbability n k) := by
  have hfactorials : Real.log n.factorial - Real.log k.factorial - Real.log (n - k).factorial =
      Real.log (n.choose k) := by
    rw [Nat.cast_choose ℝ hk, Real.log_div (by positivity) (by positivity),
      Real.log_mul (by positivity) (by positivity), sub_sub]
  have hcomplement : n - k ≠ 0 → 0 < 1 - 1 / (n : ℝ) := fun hne => complement_pos (by omega)
  have hchoose : (n.choose k : ℝ) ≠ 0 := by exact_mod_cast (Nat.choose_pos hk).ne'
  have hp : 0 < 1 / (n : ℝ) := by positivity
  have hq : (1 - 1 / (n : ℝ)) ^ (n - k) ≠ 0 := by
    rcases Nat.eq_zero_or_pos (n - k) with hzero | hne
    · rw [hzero, pow_zero]
      exact one_ne_zero
    · exact pow_ne_zero _ (hcomplement (by omega)).ne'
  simp only [logBinomial, LogScalar.lnGamma, Scalar.real_one]
  rw [← Nat.cast_sub hk, lnGamma_natCast_add_one h, lnGamma_natCast_add_one h,
    lnGamma_natCast_add_one h, xLog_natCast h fun _ => hp, xLog_natCast h hcomplement, hfactorials,
    matchProbability, Real.log_mul (mul_ne_zero hchoose (pow_pos hp k).ne') hq,
    Real.log_mul hchoose (pow_pos hp k).ne']

theorem informativeness_eq (hn : 1 ≤ n) (hk : k ≤ n) (hdomain : ¬ (n = 1 ∧ k = 0)) :
    informativeness (k : ℝ) (n : ℝ) = matchInformation n k := by
  have htwo : (LogScalar.log 2.0 : ℝ) = Real.log 2 := by
    have h2 : (2.0 : ℝ) = 2 := by norm_num
    rw [h2]
    exact h.log 2 (by norm_num)
  rw [informativeness, logBinomial_eq_log h hn hk hdomain, htwo, Scalar.real_one, neg_div,
    matchInformation_eq_logb, Real.logb]

omit h in
theorem binomialScore_zero (c : Context ℝ) (length : Int) : binomialScore c 0 length = .ok 0 :=
  congrArg Except.ok Scalar.real_zero

theorem binomialScore_natCast {c : Context ℝ} {length : Int}
    (hwindows : windowCount c.window length = n) (h1 : 1 ≤ k) (hk : k ≤ n) :
    binomialScore c k length = .ok (matchInformation n k) := by
  have hk0 : (k : Int) ≠ 0 := by omega
  have hinformation := informativeness_eq h (h1.trans hk) hk (by omega)
  rw [binomialScore, hwindows, if_neg hk0]
  exact congrArg Except.ok hinformation

end Exact

theorem score_binomialRandomness {α : Type} [LogScalar α] {b : Binding α} {c : Context α}
    (hcontext : b.context = some c) (matching length : Int) :
    (binomialRandomness.score matching length b).1 = binomialScore c matching length := by
  simp only [binomialRandomness, ScoringFunction.ofScore, Binding.require, hcontext]
  rfl

/-- Numbers of matches that are not among the windows of a document are never asked for, in passes
or of single documents. In exact arithmetic all others are scored inside the domain of the formula,
which is not used when nothing matches: the gamma function has no pole there, and where a logarithm
is multiplied by something its argument is positive. -/
theorem binomialRandomness_in_domain [Table.Memory] [Table.Bounded] [RealLogs]
    (h : RealLogs.Mathematical) :
    (∀ {β : Type} [LogScalar β] (e : Failure) (call : Call β) (s : Session (Binding β) β),
      ((Rescorer.mk (binomialRandomness.guarded Binding.allows e) .windows).call call s).1 =
        ((Rescorer.mk binomialRandomness .windows).call call s).1) ∧
    ∀ (b : Binding ℝ) (matching length : Int), b.allows matching length = true →
      ∃ (c : Context ℝ) (n k : ℕ) (x : ℝ), b.context = some c ∧
        windowCount c.window length = n ∧ matching = k ∧ 1 ≤ n ∧ k ≤ n ∧
        (0 < (n : ℝ) + 1 ∧ 0 < (k : ℝ) + 1 ∧ 0 < (n : ℝ) - k + 1) ∧
        (¬ (n = 1 ∧ k = 0) → (k < n → 0 < 1 - 1 / (n : ℝ)) ∧
          matchProbability n k ∈ Set.Ioc 0 1) ∧
        (binomialRandomness.score matching length b).1 = .ok x ∧
        (k = 0 → x = 0) ∧ (k ≠ 0 → x = -Real.logb 2 (matchProbability n k) / (1 + k)) ∧
        0 ≤ x ∧ (x = 0 ↔ k = 0 ∨ n = 1) := by
  refine ⟨fun e call s => (ScoringFunction.admits_ofScore _ _).call_guarded e call s,
    fun b matching length hallowed => ?_⟩
  obtain ⟨c, hcontext, hmatching, hmost⟩ := b.allows_eq_true hallowed
  obtain ⟨k, rfl⟩ := Int.eq_ofNat_of_zero_le hmatching
  have hwindows := one_le_windowCount c.window length
  obtain ⟨n, hn⟩ := Int.eq_ofNat_of_zero_le (zero_le_one.trans hwindows)
  have h1 : 1 ≤ n := by omega
  have hk : k ≤ n := by omega
  have hkn : (k : ℝ) ≤ n := by exact_mod_cast hk
  have hscore := score_binomialRandomness hcontext k length
  have hdomain : ¬ (n = 1 ∧ k = 0) → (k < n → 0 < 1 - 1 / (n : ℝ)) ∧
      matchProbability n k ∈ Set.Ioc 0 1 := fun hdomain =>
    ⟨fun hlt => complement_pos (by omega), matchProbability_pos h1 hk hdomain,
      matchProbability_le_one hk⟩
  rcases Nat.eq_zero_or_pos k with rfl | hpos
  · exact ⟨c, n, 0, 0, hcontext, hn, rfl, h1, hk, ⟨by positivity, by positivity, by linarith⟩,
      hdomain, hscore.trans (binomialScore_zero c length), fun _ => rfl, fun h => absurd rfl h,
      le_refl 0, iff_of_true rfl (.inl rfl)⟩
  · have hzero : matchInformation n k = 0 ↔ k = 0 ∨ n = 1 := by
      rw [matchInformation_eq_zero_iff hpos hk]
      omega
    exact ⟨c, n, k, matchInformation n k, hcontext, hn, rfl, h1, hk,
      ⟨by positivity, by positivity, by linarith⟩, hdomain,
      hscore.trans (binomialScore_natCast h hn hpos hk), fun h => by omega, fun _ => rfl,
      matchInformation_nonneg hk, hzero⟩

theorem binomialRandomness_in_domain_of_three_tokens :
    @Table.Bounded .large ∧ @RealLogs.Mathematical .natural ∧
      Binding.allows (⟨some (.bare 2), 1⟩ : Binding ℝ) 1 3 = true ∧
      ((@binomialRandomness ℝ (@LogScalar.real .natural)).score 1 3 ⟨some (.bare 2), 1⟩).1 =
        .ok (1 / 2) := by
  have hallowed : Binding.allows (⟨some (.bare 2), 1⟩ : Binding ℝ) 1 3 = true := by decide
  refine ⟨Table.bounded_large, RealLogs.mathematical_natural, hallowed, ?_⟩
  obtain ⟨c, n, k, x, hcontext, hwindows, hmatching, -, -, -, -, hscore, -, hx, -⟩ :=
    (@binomialRandomness_in_domain .large Table.bounded_large .natural
      RealLogs.mathematical_natural).2 _ 1 3 hallowed
  obtain rfl : Context.bare 2 = c := Option.some.inj hcontext
  have hwindows : (2 : Int) = n := hwindows
  obtain rfl : 2 = n := by exact_mod_cast hwindows
  obtain rfl : 1 = k := by exact_mod_cast hmatching
  have hhalf : matchProbability 2 1 = 2⁻¹ := by norm_num [matchProbability]
  have hlog : Real.logb 2 (2⁻¹) = -1 := by
    rw [Real.logb_inv, Real.logb_self_eq_one (by norm_num)]
  rw [hscore, hx one_ne_zero, hhalf, hlog]
  norm_num

/-- In the only window of two tokens the second need not come before the first; no match at all is
then an event without probability, and its formula would multiply the logarithm of zero. -/
theorem single_window_without_match :
    (Index.ofDocuments [["b", "a"]] [] true).postings? "a" =
        some ⟨some "a", #[⟨0, 2, [1]⟩], true⟩ ∧
      (Index.ofDocuments [["b", "a"]] [] true).postings? "b" =
        some ⟨some "b", #[⟨0, 2, [0]⟩], true⟩ ∧
      @Window.count .large .adjacent [1] [0] 2 2 = .ok 0 ∧ windowCount 2 2 = (1 : ℕ) ∧
      ¬ (((1 : ℕ) : ℝ) - (0 : ℕ) > 0 → 1 - 1 / ((1 : ℕ) : ℝ) > 0) ∧
      matchProbability 1 0 ∉ Set.Ioc 0 1 := by
  have ha : Index.postingsIn "a" [["b", "a"]] = [⟨0, 2, [1]⟩] := by decide
  have hb : Index.postingsIn "b" [["b", "a"]] = [⟨0, 2, [0]⟩] := by decide
  refine ⟨?_, ?_, by decide, by decide, by norm_num, ?_⟩
  · simp [Index.postings?_ofDocuments, ha]
  · simp [Index.postings?_ofDocuments, hb]
  · simp [matchProbability]

/-- A document with more matching windows scores higher, as long as it has windows left. -/
theorem binomialRandomness_strictly_increasing [RealLogs] (h : RealLogs.Mathematical)
    {b : Binding ℝ} {c : Context ℝ} {length : Int} {n k : ℕ} (hcontext : b.context = some c)
    (hwindows : windowCount c.window length = n) (h1 : 1 ≤ k) (hk : k < n) :
    (∃ x y : ℝ, (binomialRandomness.score k length b).1 = .ok x ∧
      (binomialRandomness.score (k + 1) length b).1 = .ok y ∧ 0 < x ∧ x < y) ∧
    ((n.choose (k + 1) : ℝ) * (n - 1) ^ (n - (k + 1)) / n ^ n) ^ (k + 1) <
      ((n.choose k : ℝ) * (n - 1) ^ (n - k) / n ^ n) ^ (k + 2) := by
  have hn : 2 ≤ n := by omega
  have hscore := fun matching => score_binomialRandomness hcontext matching length
  refine ⟨⟨matchInformation n k, matchInformation n (k + 1), ?_, ?_,
    matchInformation_pos hn h1 hk.le, matchInformation_lt_succ hn h1 hk⟩, ?_⟩
  · rw [hscore, binomialScore_natCast h hwindows h1 hk.le]
  · rw [hscore, ← Nat.cast_succ, binomialScore_natCast h hwindows (by omega) hk]
  · rw [← matchProbability_eq_div (by omega) hk, ← matchProbability_eq_div (by omega) hk.le]
    exact matchProbability_succ_pow_lt hn h1 hk

theorem binomialRandomness_strictly_increasing_of_four_tokens :
    @RealLogs.Mathematical .natural ∧ windowCount 2 4 = (3 : ℕ) ∧
      ∃ x y : ℝ, ((@binomialRandomness ℝ (@LogScalar.real .natural)).score 1 4
          ⟨some (.bare 2), 1⟩).1 = .ok x ∧
        ((@binomialRandomness ℝ (@LogScalar.real .natural)).score 2 4
          ⟨some (.bare 2), 1⟩).1 = .ok y ∧ 0 < x ∧ x < y := by
  have hwindows : windowCount 2 4 = (3 : ℕ) := by decide
  exact ⟨RealLogs.mathematical_natural, hwindows,
    (@binomialRandomness_strictly_increasing .natural RealLogs.mathematical_natural
      ⟨some (.bare 2), 1⟩ (.bare 2) 4 3 1 rfl hwindows le_rfl (by decide)).1⟩

end Scoring
end ProximityRanking
