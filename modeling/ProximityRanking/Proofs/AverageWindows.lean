import Mathlib.Algebra.Order.Field.Basic
import Mathlib.Tactic.Linarith
import ProximityRanking.Proofs.Lossless
import ProximityRanking.Proofs.Symmetry
/-!
The average number of windows of a collection, which is reckoned from its totals, beside the windows
of its documents. A document that is shorter than a window has one window all the same, while the
totals count it for fewer than one; what it is short of (`shortage`) is the difference between the
two.
-/
set_option autoImplicit false

namespace ProximityRanking

-- Sums start from the zero of core, whatever else is imported.
attribute [local instance (high)] Zero.ofOfNat0

/-- The windows of all documents, each of them counted by itself. -/
def windowTotal (documents : List (List String)) (window : Int) : Int :=
  (documents.map fun document => windowCount window document.length).sum

/-- What the documents that are shorter than a window are short of. -/
def shortage (documents : List (List String)) (window : Int) : Int :=
  ((documents.filter fun document => (document.length : Int) < window).map fun document =>
    window - document.length).sum

theorem windowTotal_cons (document : List String) (documents : List (List String)) (window : Int) :
    windowTotal (document :: documents) window =
      windowCount window document.length + windowTotal documents window :=
  List.sum_cons

theorem shortage_cons (document : List String) (documents : List (List String)) (window : Int) :
    shortage (document :: documents) window =
      max 0 (window - document.length) + shortage documents window := by
  unfold shortage
  by_cases hshort : (document.length : Int) < window
  · rw [List.filter_cons_of_pos (by simpa using hshort), List.map_cons, List.sum_cons,
      max_eq_right (by omega)]
  · rw [List.filter_cons_of_neg (by simpa using hshort), max_eq_left (by omega), zero_add]

theorem shortage_nonneg (documents : List (List String)) (window : Int) :
    0 ≤ shortage documents window := by
  induction documents with
  | nil => exact le_refl 0
  | cons document documents ih =>
    rw [shortage_cons]
    omega

theorem shortage_eq_zero_iff (documents : List (List String)) (window : Int) :
    shortage documents window = 0 ↔ ∀ document ∈ documents, window ≤ document.length := by
  induction documents with
  | nil => simp [shortage]
  | cons document documents ih =>
    have hrest := shortage_nonneg documents window
    rw [shortage_cons, List.forall_mem_cons, ← ih]
    omega

theorem windowTotal_eq (documents : List (List String)) (window : Int) :
    windowTotal documents window =
      documents.flatten.length - documents.length * (window - 1) + shortage documents window := by
  induction documents with
  | nil => simp [windowTotal, shortage]
  | cons document documents ih =>
    have hcount : windowCount window document.length =
        document.length - (window - 1) + max 0 (window - document.length) := by
      unfold windowCount
      split <;> omega
    rw [windowTotal_cons, ih, hcount, shortage_cons]
    simp only [List.flatten_cons, List.length_append, List.length_cons]
    push_cast
    ring

theorem length_le_windowTotal (documents : List (List String)) (window : Int) :
    (documents.length : Int) ≤ windowTotal documents window := by
  induction documents with
  | nil => exact le_refl 0
  | cons document documents ih =>
    have hone := one_le_windowCount window document.length
    rw [windowTotal_cons, List.length_cons]
    omega

theorem averageWindows?_ofDocuments {documents : List (List String)} (hne : documents ≠ [])
    (ids : List String) (positional : Bool) (window : Int) :
    (Index.ofDocuments documents ids positional).statistics.averageWindows? window =
      some (((windowTotal documents window - shortage documents window : Int) : ℚ) /
        documents.length) := by
  have htokens : (documents.flatten.length : Int) - documents.length * (window - 1) =
      windowTotal documents window - shortage documents window := by
    rw [windowTotal_eq]
    ring
  rw [Index.statistics_ofDocuments, Statistics.averageWindows?, if_neg (by simpa using hne)]
  simp only [htokens]
  rfl

/-- In exact arithmetic the average number of windows makes, over all documents, the windows of the
documents less what the short ones are short of. So it is never more than the mean number of windows
of a document, is the mean just when no document is shorter than a window, and is positive then. -/
theorem averageWindows_beside_mean {documents : List (List String)} (hne : documents ≠ [])
    (ids : List String) (positional : Bool) (window : Int) :
    ∃ average : ℚ,
      (Index.ofDocuments documents ids positional).statistics.averageWindows? window =
          some average ∧
        documents.length * average = windowTotal documents window - shortage documents window ∧
        average ≤ windowTotal documents window / documents.length ∧
        (average = windowTotal documents window / documents.length ↔
          ∀ document ∈ documents, window ≤ document.length) ∧
        (average = windowTotal documents window / documents.length → 0 < average) := by
  have hlength : (0 : ℚ) < documents.length := by
    exact_mod_cast List.length_pos_iff.2 hne
  have hshortage : (0 : ℚ) ≤ shortage documents window := by
    exact_mod_cast shortage_nonneg documents window
  have htotal : (0 : ℚ) < windowTotal documents window := by
    have hle := length_le_windowTotal documents window
    have hpos := List.length_pos_iff.2 hne
    exact_mod_cast (by omega : 0 < windowTotal documents window)
  refine ⟨_, averageWindows?_ofDocuments hne ids positional window, ?_, ?_, ?_, ?_⟩
  · rw [mul_div_cancel₀ _ hlength.ne']
    push_cast
    rfl
  · rw [div_le_div_iff_of_pos_right hlength]
    push_cast
    linarith
  · rw [div_left_inj' hlength.ne', ← shortage_eq_zero_iff]
    norm_cast
    omega
  · intro hmean
    rw [hmean]
    exact div_pos htotal hlength

theorem averageWindows_beside_mean_of_short :
    [["a", "b", "c"], ["a"]] ≠ [] ∧ windowTotal [["a", "b", "c"], ["a"]] 3 = 2 ∧
      (Index.ofDocuments [["a", "b", "c"], ["a"]] [] true).statistics.averageWindows? 3 =
        some (0 : ℚ) := by
  have hne : [["a", "b", "c"], ["a"]] ≠ [] := by simp
  have htotal : windowTotal [["a", "b", "c"], ["a"]] 3 = 2 := by decide
  have hshortage : shortage [["a", "b", "c"], ["a"]] 3 = 2 := by decide
  obtain ⟨average, haverage, hsum, -, -, -⟩ := averageWindows_beside_mean hne [] true 3
  rw [htotal, hshortage, sub_self, mul_eq_zero] at hsum
  obtain rfl : average = 0 := hsum.resolve_left (by norm_num)
  exact ⟨hne, htotal, haverage⟩

end ProximityRanking
