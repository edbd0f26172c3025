import Mathlib.Tactic.Ring
import ProximityRanking.Number.BlockSum
import ProximityRanking.Proofs.ExactScores
/-!
Sums in blocks over the real numbers. Lanes and halves take the entries in another order, which
makes no difference there: each part of the computation adds up a stretch of the sequence, and
stretches that follow each other make one.
-/
set_option autoImplicit false

namespace ProximityRanking.BlockSum

variable (a : Array ℝ) (start : ℕ)

def stretch (count : ℕ) : ℝ :=
  ((List.range' start count).map fun i => a.getD i 0).sum

theorem stretch_add (m n : ℕ) :
    stretch a start (m + n) = stretch a start m + stretch a (start + m) n := by
  unfold stretch
  rw [← List.range'_append_1, List.map_append, List.sum_append]

theorem addPlaces_eq_add_sum (places : List ℕ) (sum : ℝ) :
    addPlaces a places sum = sum + (places.map fun i => a.getD i 0).sum := by
  induction places generalizing sum with
  | nil => simp [addPlaces]
  | cons i places ih =>
    have hstep : addPlaces a (i :: places) sum = addPlaces a places (sum + a.getD i 0.0) := rfl
    rw [hstep, ih, Scalar.real_zero, List.map_cons, List.sum_cons, add_assoc]

theorem lane_succ (rounds : ℕ) :
    lane a start (rounds + 1) = lane a start rounds + a.getD (start + lanes * (rounds + 1)) 0 := by
  unfold lane
  simp only [addPlaces_eq_add_sum, List.range_succ, List.map_append, List.sum_append, List.map_cons,
    List.map_nil, List.sum_singleton, add_assoc]

theorem sum_lanes (rounds : ℕ) :
    ((lane a (start + 0) rounds + lane a (start + 1) rounds) +
          (lane a (start + 2) rounds + lane a (start + 3) rounds)) +
        ((lane a (start + 4) rounds + lane a (start + 5) rounds) +
          (lane a (start + 6) rounds + lane a (start + 7) rounds)) =
      stretch a start (lanes * (rounds + 1)) := by
  induction rounds with
  | zero =>
    simp [lane, addPlaces, stretch, lanes, List.range', Scalar.real_zero]
    ring
  | succ rounds ih =>
    have hcovered : lanes * (rounds + 1 + 1) = lanes * (rounds + 1) + lanes := by ring
    rw [hcovered, stretch_add, ← ih]
    simp only [lane_succ]
    generalize lanes * (rounds + 1) = covered
    simp [stretch, lanes, List.range', add_right_comm]
    ring

theorem block_eq_stretch (count : ℕ) : block a start count = stretch a start count := by
  unfold block
  split
  · rw [addPlaces_eq_add_sum, Scalar.real_zero, zero_add]
    rfl
  · rename_i hcount
    have hcovered : lanes * (count / lanes - 1 + 1) ≤ count := by
      simp only [lanes] at *
      omega
    have hsplit := stretch_add a start (lanes * (count / lanes - 1 + 1))
      (count - lanes * (count / lanes - 1 + 1))
    rw [Nat.add_sub_of_le hcovered] at hsplit
    dsimp only
    rw [addPlaces_eq_add_sum, sum_lanes, hsplit]
    rfl

theorem range_eq_stretch (count : ℕ) : range a start count = stretch a start count := by
  induction count using Nat.strongRecOn generalizing start with
  | ind count ih =>
    rw [range]
    split
    · exact block_eq_stretch a start count
    · rename_i hcount
      have hhalf : 0 < half count ∧ half count < count := by
        simp only [half, lanes, blockSize] at *
        omega
      rw [ih _ hhalf.2, ih _ (by omega), ← stretch_add, Nat.add_sub_of_le hhalf.2.le]

theorem sum_eq_sum (l : List ℝ) : BlockSum.sum l = l.sum := by
  have hentries : (List.range' 0 l.length).map (fun i => l.toArray.getD i 0) = l := by
    refine List.ext_getElem (by simp) fun i hi hi' => ?_
    simp [hi']
  rw [BlockSum.sum, range_eq_stretch, stretch, hentries]

end ProximityRanking.BlockSum
