import Mathlib.Algebra.Order.BigOperators.Group.Finset
import Mathlib.Analysis.SpecialFunctions.Log.Base
import Mathlib.Data.Finset.Card
import ProximityRanking.Metrics
import ProximityRanking.Proofs.BlockSums
import ProximityRanking.Proofs.Retrieval
import ProximityRanking.Proofs.Rounding
/-!
Gains in exact arithmetic. A ranking gains the discounts of the places where it has relevant
documents, as far as the cutoff reaches; since discounts fall from place to place, no places are
worth more than the first ones.
-/
set_option autoImplicit false

namespace ProximityRanking

namespace Metrics

/-- The places up to a cutoff that have a discount: all of them, unless the length of the table is
rounded down. -/
def places (cutoff : Int) : Nat :=
  min cutoff.toNat (Binary64.roundNat cutoff.toNat)

/-- All documents of a ranking up to a cutoff have a discount: the table can be laid out and is no
shorter than the ranking. -/
def Discounted [Table.Memory] (retrieved : List Int) (cutoff : Int) : Prop :=
  cutoff ≤ 0 ∨ Table.Fits cutoff.toNat ∧
    min retrieved.length cutoff.toNat ≤ Binary64.roundNat cutoff.toNat

theorem places_pos {cutoff : Int} (h : 0 < cutoff) : 0 < places cutoff := by
  have hround : 2 ^ 0 ≤ Binary64.roundNat cutoff.toNat := Binary64.two_pow_le_roundNat (by omega)
  unfold places
  omega

section Cases

variable {α : Type} [LogScalar α] [Table.Memory] {relevant retrieved : List Int} {cutoff : Int}

omit [LogScalar α] in
theorem discounted_of_le (h : cutoff ≤ 2 ^ 53) (hroom : cutoff < Table.Memory.capacity)
    (retrieved : List Int) : Discounted retrieved cutoff := by
  rcases lt_or_ge 0 cutoff with hpos | hnothing
  · refine .inr ⟨Table.fits_of_le (by omega) (by omega), ?_⟩
    rw [Binary64.roundNat_of_le (by omega)]
    exact Nat.min_le_right _ _
  · exact .inl hnothing

omit [LogScalar α] in
theorem not_discounted_of_le (h : 2 ^ 60 ≤ cutoff) : ¬ Discounted retrieved cutoff := by
  rintro (hnothing | ⟨hfits, -⟩)
  · omega
  · have hround : 2 ^ 60 ≤ Binary64.roundNat cutoff.toNat :=
      Binary64.two_pow_le_roundNat (by omega)
    have hbytes := hfits.addressable
    rw [Table.numberBytes_mul] at hbytes
    omega

theorem ndcg_of_nothing (h : cutoff ≤ 0 ∨ relevant = []) :
    (ndcg relevant retrieved cutoff : Except Failure α) = .ok 0.0 := by
  unfold ndcg
  rw [if_pos]
  rcases h with h | rfl
  · exact .inl h
  · exact .inr rfl

theorem ndcg_of_discounted (hpos : 0 < cutoff) (hrelevant : relevant ≠ [])
    (hdiscounts : Discounted retrieved cutoff) :
    (ndcg relevant retrieved cutoff : Except Failure α) =
      .ok (BlockSum.sum (gains relevant retrieved cutoff.toNat) /
        BlockSum.sum (idealGains relevant (places cutoff))) := by
  obtain ⟨hfits, hreaches⟩ := hdiscounts.resolve_left (by omega)
  have hsomething : ¬ (cutoff ≤ 0 ∨ relevant.isEmpty = true) := by simp [hpos, hrelevant]
  have hplaces := places_pos hpos
  have hranks : ¬ Binary64.roundNat cutoff.toNat = 0 := by
    unfold places at hplaces
    omega
  have hranked : ¬ (2 ≤ min retrieved.length cutoff.toNat ∧
      Binary64.roundNat cutoff.toNat < min retrieved.length cutoff.toNat) := by omega
  rw [ndcg, if_neg hsomething, hfits.length_eq]
  simp only [if_neg hranked, if_neg hranks]
  rfl

theorem exists_error_ndcg (hdiscounts : ¬ Discounted retrieved cutoff) :
    ∃ e, ∀ relevant ≠ [],
      (ndcg relevant retrieved cutoff : Except Failure α) = .error e := by
  obtain ⟨hpos, hshort⟩ := not_or.1 hdiscounts
  have hpos : 0 < cutoff := by omega
  have hsomething : ∀ relevant : List Int, relevant ≠ [] →
      ¬ (cutoff ≤ 0 ∨ relevant.isEmpty = true) := by
    intro relevant hrelevant
    simp [hrelevant, hpos]
  by_cases hfits : Table.Fits cutoff.toNat
  · have hplaces := places_pos hpos
    unfold places at hplaces
    have hlonger : Binary64.roundNat cutoff.toNat < min retrieved.length cutoff.toNat :=
      Nat.not_le.1 fun hle => hshort ⟨hfits, hle⟩
    refine ⟨.tablesDiffer (min retrieved.length cutoff.toNat) (Binary64.roundNat cutoff.toNat),
      fun relevant hrelevant => ?_⟩
    rw [ndcg, if_neg (hsomething relevant hrelevant), hfits.length_eq]
    exact if_pos ⟨by omega, hlonger⟩
  · rcases Table.length_of_not_fits hfits with ⟨fault, hfault⟩ | hempty
    · refine ⟨.table fault, fun relevant hrelevant => ?_⟩
      rw [ndcg, if_neg (hsomething relevant hrelevant), hfault]
    · let ranked := min retrieved.length cutoff.toNat
      refine ⟨if 2 ≤ ranked ∧ 0 < ranked then .tablesDiffer ranked 0 else .divisionByZero,
        fun relevant hrelevant => ?_⟩
      rw [ndcg, if_neg (hsomething relevant hrelevant), hempty]
      simp only [if_true]
      split <;> rfl

end Cases

/-- Discounts that are positive and fall from place to place. -/
structure Discounting [RealLogs] : Prop where
  pos : ∀ place, 0 < (discount place : ℝ)
  falls : StrictAnti (discount : ℕ → ℝ)

theorem discount_eq [RealLogs] (place : ℕ) :
    (discount place : ℝ) = 1 / RealLogs.log2 (place + 2) := by
  have hplace : ((((place : ℤ) + 2 : ℤ)) : ℝ) = place + 2 := by push_cast; rfl
  rw [← hplace, ← Scalar.real_one]
  rfl

theorem Discounting.of_eq [RealLogs] {d : ℕ → ℝ} (hd : ∀ place, discount place = d place)
    (hpos : ∀ place, 0 < d place) (hfalls : StrictAnti d) : Discounting where
  pos place := by
    rw [hd]
    exact hpos place
  falls m n hmn := by
    rw [hd, hd]
    exact hfalls hmn

theorem discounting_natural : @Discounting .natural := by
  have hlog : ∀ place : ℕ, 0 < Real.logb 2 (place + 2) := fun place =>
    Real.logb_pos (by norm_num) (by linarith [place.cast_nonneg (α := ℝ)])
  refine @Discounting.of_eq .natural _ (@discount_eq .natural)
    (fun place => one_div_pos.2 (hlog place)) fun m n hmn => ?_
  have hmn : (m : ℝ) < n := by exact_mod_cast hmn
  exact one_div_lt_one_div_of_lt (hlog m)
    (Real.logb_lt_logb (by norm_num) (by positivity) (by linarith))

/-- Any positive sequence that falls strictly is the discounts of some logarithms. -/
theorem exists_discounting {d : ℕ → ℝ} (hpos : ∀ place, 0 < d place) (hfalls : StrictAnti d) :
    ∃ logs : RealLogs, @Discounting logs ∧
      ∀ place, @discount ℝ (@LogScalar.real logs) place = d place := by
  let logs : RealLogs := { RealLogs.natural with log2 := fun x => 1 / d (⌊x⌋₊ - 2) }
  have hd : ∀ place, @discount ℝ (@LogScalar.real logs) place = d place := by
    intro place
    have hfloor : ⌊(place + 2 : ℝ)⌋₊ - 2 = place := by
      rw [Nat.floor_add_ofNat place.cast_nonneg, Nat.floor_natCast, Nat.add_sub_cancel]
    rw [@discount_eq logs]
    change 1 / (1 / d (⌊(place + 2 : ℝ)⌋₊ - 2)) = d place
    rw [one_div_one_div, hfloor]
  exact ⟨logs, @Discounting.of_eq logs d hd hpos hfalls, hd⟩

theorem take_sub_cons {cutoff place : ℕ} (h : place < cutoff) (docid : Int) (rest : List Int) :
    (docid :: rest).take (cutoff - place) = docid :: rest.take (cutoff - (place + 1)) := by
  obtain ⟨left, hleft⟩ : ∃ left, cutoff - place = left + 1 := ⟨cutoff - place - 1, by omega⟩
  have hrest : cutoff - (place + 1) = left := by omega
  rw [hleft, hrest, List.take_succ_cons]

section Exact

variable [RealLogs] (relevant : List Int) (cutoff : ℕ)

noncomputable def discountWithin (place : ℕ) : ℝ :=
  if place < cutoff then discount place else 0

theorem discountWithin_of_lt {cutoff place : ℕ} (h : place < cutoff) :
    discountWithin cutoff place = discount place :=
  if_pos h

theorem discountWithin_of_le {cutoff place : ℕ} (h : cutoff ≤ place) :
    discountWithin cutoff place = 0 :=
  if_neg (Nat.not_lt.2 h)

noncomputable def gainFrom (place : ℕ) (retrieved : List Int) : ℝ :=
  ((retrieved.zipIdx place).map fun e =>
    if e.1 ∈ relevant then discountWithin cutoff e.2 else 0).sum

@[simp] theorem gainFrom_nil (place : ℕ) : gainFrom relevant cutoff place [] = 0 := rfl

@[simp] theorem gainFrom_cons (place : ℕ) (docid : Int) (rest : List Int) :
    gainFrom relevant cutoff place (docid :: rest) =
      (if docid ∈ relevant then discountWithin cutoff place else 0) +
        gainFrom relevant cutoff (place + 1) rest := by
  simp [gainFrom]

@[simp] theorem gainFrom_append (place : ℕ) (first rest : List Int) :
    gainFrom relevant cutoff place (first ++ rest) =
      gainFrom relevant cutoff place first +
        gainFrom relevant cutoff (place + first.length) rest := by
  simp [gainFrom, List.zipIdx_append]

theorem gainFrom_of_le {place : ℕ} (h : cutoff ≤ place) (retrieved : List Int) :
    gainFrom relevant cutoff place retrieved = 0 := by
  induction retrieved generalizing place with
  | nil => rfl
  | cons docid rest ih => simp [discountWithin_of_le h, ih (Nat.le_succ_of_le h)]

/-- What the first places gain when all of them are relevant. -/
noncomputable def ideal (n : ℕ) : ℝ :=
  ∑ place ∈ Finset.range n, discount place

theorem sum_gains (retrieved : List Int) :
    BlockSum.sum (gains relevant retrieved cutoff) = gainFrom relevant cutoff 0 retrieved := by
  have hfrom : ∀ place, (((retrieved.take (cutoff - place)).zipIdx place).map fun e =>
      (if relevant.contains e.1 then 1.0 else 0.0) * (discount e.2 : ℝ)).sum =
        gainFrom relevant cutoff place retrieved := by
    induction retrieved with
    | nil => simp
    | cons docid rest ih =>
      intro place
      rcases Nat.lt_or_ge place cutoff with hplace | hplace
      · rw [take_sub_cons hplace, gainFrom_cons, ← ih]
        simp [discountWithin_of_lt hplace, Scalar.real_zero, Scalar.real_one]
      · rw [gainFrom_of_le _ _ hplace, Nat.sub_eq_zero_of_le hplace]
        rfl
  rw [BlockSum.sum_eq_sum, ← hfrom 0]
  rfl

theorem sum_idealGains :
    BlockSum.sum (idealGains relevant cutoff) = ideal (min relevant.length cutoff) := by
  rw [BlockSum.sum_eq_sum]
  rfl

theorem sum_discountWithin (n : ℕ) :
    ∑ place ∈ Finset.range n, discountWithin cutoff place = ideal (min n cutoff) := by
  induction n with
  | zero => simp [ideal]
  | succ n ih =>
    rw [Finset.sum_range_succ, ih]
    rcases Nat.lt_or_ge n cutoff with hn | hn
    · rw [discountWithin_of_lt hn, Nat.min_eq_left hn.le, Nat.min_eq_left hn, ideal, ideal,
        Finset.sum_range_succ]
    · rw [discountWithin_of_le hn, Nat.min_eq_right hn, Nat.min_eq_right (by omega), add_zero]

variable {relevant cutoff}

theorem gainFrom_congr {relevant' : List Int} (h : ∀ docid, docid ∈ relevant ↔ docid ∈ relevant')
    (place : ℕ) (retrieved : List Int) :
    gainFrom relevant cutoff place retrieved = gainFrom relevant' cutoff place retrieved := by
  simp [gainFrom, h]

theorem gainFrom_of_forall_mem {place : ℕ} {retrieved : List Int}
    (h : ∀ docid ∈ retrieved, docid ∈ relevant) :
    gainFrom relevant cutoff place retrieved =
      ∑ i ∈ Finset.range retrieved.length, discountWithin cutoff (place + i) := by
  induction retrieved generalizing place with
  | nil => rfl
  | cons docid rest ih =>
    obtain ⟨hdocid, hrest⟩ := List.forall_mem_cons.1 h
    rw [gainFrom_cons, if_pos hdocid, ih hrest, List.length_cons, Finset.sum_range_succ']
    simp only [add_zero, add_comm, add_left_comm]

namespace Discounting

variable (h : Discounting) {place : ℕ} {retrieved : List Int}

include h

theorem discountWithin_nonneg (cutoff place : ℕ) : 0 ≤ discountWithin cutoff place := by
  unfold discountWithin
  split
  · exact (h.pos place).le
  · exact le_refl 0

theorem discountWithin_succ_lt_iff (cutoff place : ℕ) :
    discountWithin cutoff (place + 1) < discountWithin cutoff place ↔ place < cutoff := by
  constructor
  · intro hlt
    by_contra hle
    rw [discountWithin_of_le (by omega), discountWithin_of_le (by omega)] at hlt
    exact lt_irrefl 0 hlt
  · intro hplace
    rw [discountWithin_of_lt hplace]
    rcases Nat.lt_or_ge (place + 1) cutoff with hnext | hnext
    · rw [discountWithin_of_lt hnext]
      exact h.falls (Nat.lt_succ_self place)
    · rw [discountWithin_of_le hnext]
      exact h.pos place

theorem discountWithin_succ_le (cutoff place : ℕ) :
    discountWithin cutoff (place + 1) ≤ discountWithin cutoff place := by
  rcases Nat.lt_or_ge place cutoff with hplace | hplace
  · exact ((h.discountWithin_succ_lt_iff cutoff place).2 hplace).le
  · rw [discountWithin_of_le hplace, discountWithin_of_le (by omega)]

theorem strictMono_ideal : StrictMono ideal := by
  refine strictMono_nat_of_lt_succ fun n => ?_
  rw [ideal, ideal, Finset.sum_range_succ]
  linarith [h.pos n]

theorem ideal_pos {n : ℕ} (hn : 0 < n) : 0 < ideal n := by
  have hlt := h.strictMono_ideal hn
  rwa [ideal, Finset.range_zero, Finset.sum_empty] at hlt

theorem gainFrom_nonneg : 0 ≤ gainFrom relevant cutoff place retrieved := by
  induction retrieved generalizing place with
  | nil => exact le_refl 0
  | cons docid rest ih =>
    rw [gainFrom_cons]
    refine add_nonneg ?_ ih
    split
    · exact h.discountWithin_nonneg cutoff place
    · exact le_refl 0

theorem gainFrom_eq_zero_iff : gainFrom relevant cutoff place retrieved = 0 ↔
    ∀ docid ∈ retrieved.take (cutoff - place), docid ∉ relevant := by
  induction retrieved generalizing place with
  | nil => simp
  | cons docid rest ih =>
    rcases Nat.lt_or_ge place cutoff with hplace | hplace
    · rw [take_sub_cons hplace, List.forall_mem_cons, ← ih, gainFrom_cons]
      by_cases hdocid : docid ∈ relevant
      · have hpos := h.pos place
        have hrest : 0 ≤ gainFrom relevant cutoff (place + 1) rest := h.gainFrom_nonneg
        rw [if_pos hdocid, discountWithin_of_lt hplace]
        simp only [hdocid, not_true_eq_false, false_and, iff_false]
        linarith
      · simp [hdocid]
    · rw [gainFrom_of_le _ _ hplace, Nat.sub_eq_zero_of_le hplace]
      simp

theorem gainFrom_le (place : ℕ) : gainFrom relevant cutoff place retrieved ≤
    ∑ i ∈ Finset.range (retrieved.countP (· ∈ relevant)), discountWithin cutoff (place + i) := by
  induction retrieved generalizing place with
  | nil => exact le_refl 0
  | cons docid rest ih =>
    rw [gainFrom_cons]
    by_cases hdocid : docid ∈ relevant
    · rw [if_pos hdocid, List.countP_cons_of_pos (by simpa using hdocid), Finset.sum_range_succ']
      have hrest := ih (place + 1)
      simp only [add_right_comm place 1] at hrest
      simp only [← add_assoc, add_zero]
      linarith
    · rw [if_neg hdocid, List.countP_cons_of_neg (by simpa using hdocid), zero_add]
      refine (ih (place + 1)).trans (Finset.sum_le_sum fun i _ => ?_)
      rw [add_right_comm]
      exact h.discountWithin_succ_le cutoff (place + i)

end Discounting

end Exact

end Metrics
end ProximityRanking
