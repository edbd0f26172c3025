import ProximityRanking.Proofs.Gains
/-!
How good rankings are. In exact arithmetic a gain that is divided by the ideal one lies between zero
and one, and both figures reward a relevant document that moves up. The ideal gain goes by the
number of entries in the list of what is relevant, so an entry that comes again takes something off
wherever the cutoff leaves room for it.
-/
set_option autoImplicit false

namespace ProximityRanking.Metrics

variable {relevant retrieved : List Int}

theorem reciprocalRank_eq_elim (relevant retrieved : List Int) :
    (reciprocalRank relevant retrieved : ℝ) =
      (retrieved.findIdx? relevant.contains).elim 0 fun place => 1 / ((place : ℝ) + 1) := by
  unfold reciprocalRank
  cases retrieved.findIdx? relevant.contains with
  | none => exact Scalar.real_zero
  | some place =>
    have hplace : (Scalar.ofInt ((place : Int) + 1) : ℝ) = place + 1 := by
      change (((place : Int) + 1 : Int) : ℝ) = place + 1
      push_cast
      rfl
    simp [hplace, Scalar.real_one]

theorem reciprocalRank_mem_Icc (relevant retrieved : List Int) :
    (reciprocalRank relevant retrieved : ℝ) ∈ Set.Icc 0 1 := by
  rw [reciprocalRank_eq_elim]
  cases retrieved.findIdx? relevant.contains with
  | none => simp
  | some place =>
    have hplace : (1 : ℝ) ≤ place + 1 := by linarith [place.cast_nonneg (α := ℝ)]
    exact ⟨one_div_nonneg.2 (by linarith), (div_le_one (by linarith)).2 hplace⟩

theorem reciprocalRank_promoted (above below : List Int) {first second : Int}
    (hfirst : first ∉ relevant) (hsecond : second ∈ relevant) :
    (reciprocalRank relevant (above ++ first :: second :: below) : ℝ) ≤
      reciprocalRank relevant (above ++ second :: first :: below) := by
  rw [reciprocalRank_eq_elim, reciprocalRank_eq_elim, List.findIdx?_append, List.findIdx?_append]
  cases above.findIdx? relevant.contains with
  | some place => exact le_refl _
  | none =>
    have hlength : (0 : ℝ) ≤ above.length := above.length.cast_nonneg
    simp [List.findIdx?_cons, hfirst, hsecond]
    exact inv_anti₀ (by linarith) (by linarith)

theorem countP_le_card (hretrieved : retrieved.Nodup) :
    retrieved.countP (· ∈ relevant) ≤ relevant.toFinset.card := by
  have hnodup : (retrieved.filter (· ∈ relevant)).Nodup := hretrieved.filter _
  rw [List.countP_eq_length_filter, ← List.toFinset_card_of_nodup hnodup]
  refine Finset.card_le_card fun docid hdocid => ?_
  simp only [List.mem_toFinset, List.mem_filter, decide_eq_true_eq] at hdocid ⊢
  exact hdocid.2

theorem eq_nil_congr {relevant' : List Int}
    (hsame : ∀ docid, docid ∈ relevant ↔ docid ∈ relevant') : relevant = [] ↔ relevant' = [] := by
  simp [List.eq_nil_iff_forall_not_mem, hsame]

theorem gains_congr {α : Type} [LogScalar α] {relevant' : List Int}
    (hsame : ∀ docid, docid ∈ relevant ↔ docid ∈ relevant') (cutoff : ℕ) :
    (gains relevant retrieved cutoff : List α) = gains relevant' retrieved cutoff := by
  simp [gains, hsame]

theorem ndcg_congr {α : Type} [LogScalar α] [Table.Memory] {relevant' : List Int} {cutoff : Int}
    (hsame : ∀ docid, docid ∈ relevant ↔ docid ∈ relevant')
    (hplaces : min relevant.length (places cutoff) = min relevant'.length (places cutoff) ∨
      ¬ Discounted retrieved cutoff) :
    (ndcg relevant retrieved cutoff : Except Failure α) = ndcg relevant' retrieved cutoff := by
  have hempty := eq_nil_congr hsame
  by_cases hnothing : cutoff ≤ 0 ∨ relevant = []
  · rw [ndcg_of_nothing hnothing, ndcg_of_nothing (by rwa [← hempty])]
  · obtain ⟨hpos, hrelevant⟩ := not_or.1 hnothing
    have hpos : 0 < cutoff := by omega
    have hrelevant' : relevant' ≠ [] := by rwa [Ne, ← hempty]
    by_cases hdiscounts : Discounted retrieved cutoff
    · have hplaces := hplaces.resolve_right (not_not.2 hdiscounts)
      rw [ndcg_of_discounted hpos hrelevant hdiscounts,
        ndcg_of_discounted hpos hrelevant' hdiscounts, gains_congr hsame, idealGains, idealGains,
        hplaces]
    · obtain ⟨e, he⟩ := exists_error_ndcg (α := α) hdiscounts
      rw [he relevant hrelevant, he relevant' hrelevant']

section Exact

variable [RealLogs]

theorem ndcg_eq_div [Table.Memory] {cutoff : Int} (hpos : 0 < cutoff) (hrelevant : relevant ≠ [])
    (hdiscounts : Discounted retrieved cutoff) :
    (ndcg relevant retrieved cutoff : Except Failure ℝ) =
      .ok (gainFrom relevant cutoff.toNat 0 retrieved /
        ideal (min relevant.length (places cutoff))) := by
  rw [ndcg_of_discounted hpos hrelevant hdiscounts, sum_gains, sum_idealGains]

theorem gainFrom_promoted (cutoff : ℕ) (above below : List Int) {first second : Int}
    (hfirst : first ∉ relevant) (hsecond : second ∈ relevant) :
    gainFrom relevant cutoff 0 (above ++ second :: first :: below) -
        gainFrom relevant cutoff 0 (above ++ first :: second :: below) =
      discountWithin cutoff above.length - discountWithin cutoff (above.length + 1) := by
  simp [hfirst, hsecond]

namespace Discounting

variable (h : Discounting)

include h

theorem gainFrom_le_ideal {cutoff n : ℕ} (hretrieved : retrieved.Nodup)
    (hn : min (min relevant.toFinset.card retrieved.length) cutoff ≤ n) :
    gainFrom relevant cutoff 0 retrieved ≤ ideal n := by
  refine (h.gainFrom_le 0).trans ?_
  simp only [zero_add, sum_discountWithin]
  have hcard : retrieved.countP (· ∈ relevant) ≤ relevant.toFinset.card := countP_le_card hretrieved
  have hlength : retrieved.countP (· ∈ relevant) ≤ retrieved.length := List.countP_le_length
  exact h.strictMono_ideal.monotone (by omega)

theorem gainFrom_eq_ideal {cutoff n : ℕ} (hretrieved : retrieved.Nodup)
    (hn : min (min relevant.toFinset.card retrieved.length) cutoff ≤ n) (hcutoff : n ≤ cutoff)
    (hlength : n ≤ retrieved.length) (hfirst : ∀ docid ∈ retrieved.take n, docid ∈ relevant) :
    gainFrom relevant cutoff 0 retrieved = ideal n := by
  have hgain : gainFrom relevant cutoff 0 (retrieved.take n) = ideal n := by
    rw [gainFrom_of_forall_mem hfirst, List.length_take, min_eq_left hlength]
    simp only [zero_add, sum_discountWithin, min_eq_left hcutoff]
  refine le_antisymm (h.gainFrom_le_ideal hretrieved hn) ?_
  calc ideal n = gainFrom relevant cutoff 0 (retrieved.take n) := hgain.symm
    _ ≤ gainFrom relevant cutoff 0 (retrieved.take n) +
        gainFrom relevant cutoff (0 + (retrieved.take n).length) (retrieved.drop n) :=
      le_add_of_nonneg_right h.gainFrom_nonneg
    _ = gainFrom relevant cutoff 0 retrieved := by
      rw [← gainFrom_append, List.take_append_drop]

variable {cutoff : Int} (hpos : 0 < cutoff) (hrelevant : relevant ≠ [])

include hpos hrelevant

theorem ideal_pos_of_ne_nil : 0 < ideal (min relevant.length (places cutoff)) := by
  have hlength := List.length_pos_iff.2 hrelevant
  have hplaces := places_pos hpos
  exact h.ideal_pos (by omega)

theorem div_ideal_mem_Icc [Table.Memory] (hdiscounts : Discounted retrieved cutoff)
    (hretrieved : retrieved.Nodup) :
    gainFrom relevant cutoff.toNat 0 retrieved / ideal (min relevant.length (places cutoff)) ∈
      Set.Icc (0 : ℝ) 1 := by
  have hideal := h.ideal_pos_of_ne_nil hpos hrelevant
  refine ⟨div_nonneg h.gainFrom_nonneg hideal.le, (div_le_one hideal).2 ?_⟩
  have hcard := relevant.toFinset_card_le
  have hreaches := (hdiscounts.resolve_left (by omega)).2
  refine h.gainFrom_le_ideal hretrieved ?_
  unfold places
  omega

end Discounting

theorem ndcg_mem_Icc [Table.Memory] (h : Discounting) {cutoff : Int}
    (hdiscounts : Discounted retrieved cutoff) (hretrieved : retrieved.Nodup) :
    ∃ x ∈ Set.Icc (0 : ℝ) 1, ndcg relevant retrieved cutoff = .ok x ∧
      (0 < cutoff → relevant ≠ [] → ∃ best : ℝ,
        best = BlockSum.sum (idealGains relevant (places cutoff)) ∧ 0 < best ∧
          x = BlockSum.sum (gains relevant retrieved cutoff.toNat) / best) := by
  by_cases hnothing : cutoff ≤ 0 ∨ relevant = []
  · refine ⟨0, by simp, by rw [ndcg_of_nothing hnothing, Scalar.real_zero], ?_⟩
    intro hpos hrelevant
    exact absurd hnothing (not_or.2 ⟨by omega, hrelevant⟩)
  · obtain ⟨hpos, hrelevant⟩ := not_or.1 hnothing
    have hpos : 0 < cutoff := by omega
    refine ⟨_, h.div_ideal_mem_Icc hpos hrelevant hdiscounts hretrieved,
      ndcg_eq_div hpos hrelevant hdiscounts, fun _ _ => ⟨_, (sum_idealGains _ _).symm,
        h.ideal_pos_of_ne_nil hpos hrelevant, ?_⟩⟩
    rw [sum_gains]

theorem ndcg_promoted [Table.Memory] (h : Discounting) {above below : List Int}
    {first second : Int} (hfirst : first ∉ relevant) (hsecond : second ∈ relevant) {cutoff : Int}
    (hdiscounts : Discounted (above ++ first :: second :: below) cutoff) :
    ∃ x y : ℝ, ndcg relevant (above ++ first :: second :: below) cutoff = .ok x ∧
      ndcg relevant (above ++ second :: first :: below) cutoff = .ok y ∧
      x ≤ y ∧ (x < y ↔ (above.length : Int) < cutoff) := by
  have hrelevant : relevant ≠ [] := List.ne_nil_of_mem hsecond
  have hexchanged : Discounted (above ++ second :: first :: below) cutoff := by
    unfold Discounted at hdiscounts ⊢
    rwa [List.length_append] at hdiscounts ⊢
  rcases lt_or_ge 0 cutoff with hpos | hnothing
  · refine ⟨_, _, ndcg_eq_div hpos hrelevant hdiscounts, ndcg_eq_div hpos hrelevant hexchanged, ?_⟩
    have hideal := h.ideal_pos_of_ne_nil hpos hrelevant
    have hgap := gainFrom_promoted cutoff.toNat above below hfirst hsecond
    have hfall := h.discountWithin_succ_le cutoff.toNat above.length
    rw [div_le_div_iff_of_pos_right hideal, div_lt_div_iff_of_pos_right hideal]
    refine ⟨by linarith, ?_⟩
    rw [← sub_pos, hgap, sub_pos, h.discountWithin_succ_lt_iff]
    omega
  · have hzero : ∀ retrieved, (ndcg relevant retrieved cutoff : Except Failure ℝ) = .ok 0.0 :=
      fun retrieved => ndcg_of_nothing (.inl hnothing)
    exact ⟨_, _, hzero _, hzero _, le_refl _, by simp; omega⟩

end Exact

/-- Both figures lie between zero and one, and nothing is divided by zero. A relevant document that
changes places with the one above it, when that one is not relevant, lowers neither, and raises the
gain exactly when its new place comes before the cutoff. The gain needs a discount for each document
up to the cutoff. Up to `2 ^ 53` these are there whenever there is memory for them, and from
`2 ^ 60` on they never are; without them there is no gain. -/
theorem bounded_and_rewards_promotion [RealLogs] [Table.Memory] (h : Discounting)
    (relevant : List Int) :
    (∀ retrieved, (reciprocalRank relevant retrieved : ℝ) ∈ Set.Icc 0 1) ∧
    (∀ (cutoff : Int) (retrieved : List Int), Discounted retrieved cutoff → retrieved.Nodup →
      ∃ x ∈ Set.Icc (0 : ℝ) 1, ndcg relevant retrieved cutoff = .ok x ∧
        (0 < cutoff → relevant ≠ [] → ∃ best : ℝ,
          best = BlockSum.sum (idealGains relevant (places cutoff)) ∧ 0 < best ∧
            x = BlockSum.sum (gains relevant retrieved cutoff.toNat) / best)) ∧
    (∀ (cutoff : Int) (retrieved : List Int), ¬ Discounted retrieved cutoff → relevant ≠ [] →
      ∃ e, (ndcg relevant retrieved cutoff : Except Failure ℝ) = .error e) ∧
    (∀ (cutoff : Int) (retrieved : List Int),
      (cutoff ≤ 2 ^ 53 → cutoff < Table.Memory.capacity → Discounted retrieved cutoff) ∧
        (2 ^ 60 ≤ cutoff → ¬ Discounted retrieved cutoff)) ∧
    ∀ (above below : List Int) (first second : Int), first ∉ relevant → second ∈ relevant →
      (reciprocalRank relevant (above ++ first :: second :: below) : ℝ) ≤
          reciprocalRank relevant (above ++ second :: first :: below) ∧
        ∀ cutoff : Int, Discounted (above ++ first :: second :: below) cutoff → ∃ x y : ℝ,
          ndcg relevant (above ++ first :: second :: below) cutoff = .ok x ∧
          ndcg relevant (above ++ second :: first :: below) cutoff = .ok y ∧
          x ≤ y ∧ (x < y ↔ (above.length : Int) < cutoff) := by
  refine ⟨reciprocalRank_mem_Icc relevant, fun _ _ => ndcg_mem_Icc h,
    fun cutoff retrieved hdiscounts hrelevant => ?_,
    fun cutoff retrieved => ⟨fun hle hroom => discounted_of_le hle hroom retrieved,
      not_discounted_of_le⟩,
    fun above below first second hfirst hsecond =>
      ⟨reciprocalRank_promoted above below hfirst hsecond,
        fun _ => ndcg_promoted h hfirst hsecond⟩⟩
  obtain ⟨e, he⟩ := exists_error_ndcg (α := ℝ) hdiscounts
  exact ⟨e, he relevant hrelevant⟩

theorem bounded_and_rewards_promotion_of_two :
    @Discounting .natural ∧ @Discounted .large [3, 1] 1 ∧ ∃ x y : ℝ,
      @ndcg ℝ (@LogScalar.real .natural) .large [1] [3, 1] 1 = .ok x ∧
      @ndcg ℝ (@LogScalar.real .natural) .large [1] [1, 3] 1 = .ok y ∧ x < y := by
  obtain ⟨-, -, -, hdiscounts, hpromoted⟩ :=
    @bounded_and_rewards_promotion .natural .large discounting_natural [1]
  have hdiscounts : @Discounted .large [3, 1] 1 :=
    (hdiscounts 1 [3, 1]).1 (by decide) (by decide)
  obtain ⟨x, y, hx, hy, -, hlt⟩ :=
    (hpromoted [] [] 3 1 (by decide) (by decide)).2 1 hdiscounts
  exact ⟨discounting_natural, hdiscounts, x, y, hx, hy, hlt.2 (by decide)⟩

/-- A table of discounts that is longer than anything that can be counted is refused. -/
theorem ndcg_of_hugeCutoff :
    @ndcg ℝ (@LogScalar.real .natural) .large [1] [1] (10 ^ 30) =
      .error (.table .uncountable) := by
  have hlength : @Table.length .large (10 ^ 30) = .error .uncountable := by decide +kernel
  have hcutoff : ((10 : Int) ^ 30).toNat = 10 ^ 30 := by decide
  unfold ndcg
  rw [if_neg (by decide), hcutoff, hlength]

section Exact

variable [RealLogs] [Table.Memory]

theorem ndcg_eq_ndcg_iff (h : Discounting) {relevant' : List Int}
    (hsame : ∀ docid, docid ∈ relevant ↔ docid ∈ relevant') (cutoff : Int)
    (retrieved : List Int) :
    (ndcg relevant retrieved cutoff : Except Failure ℝ) = ndcg relevant' retrieved cutoff ↔
      min relevant.length (places cutoff) = min relevant'.length (places cutoff) ∨
        ¬ Discounted retrieved cutoff ∨
          ∀ docid ∈ retrieved.take cutoff.toNat, docid ∉ relevant := by
  rw [← or_assoc]
  by_cases hplaces : min relevant.length (places cutoff) = min relevant'.length (places cutoff) ∨
      ¬ Discounted retrieved cutoff
  · exact iff_of_true (ndcg_congr hsame hplaces) (.inl hplaces)
  · obtain ⟨hdiffer, hdiscounts⟩ := not_or.1 hplaces
    have hdiscounts : Discounted retrieved cutoff := not_not.1 hdiscounts
    have hpos : 0 < cutoff := by
      by_contra hnothing
      have hzero : places cutoff = 0 := by
        unfold places
        omega
      simp [hzero] at hdiffer
    have hempty := eq_nil_congr hsame
    have hrelevant : relevant ≠ [] := fun hnil => by
      simp [hnil, hempty.1 hnil] at hdiffer
    have hgain : gainFrom relevant cutoff.toNat 0 retrieved = 0 ↔
        ∀ docid ∈ retrieved.take cutoff.toNat, docid ∉ relevant := h.gainFrom_eq_zero_iff
    rw [or_iff_right hplaces, ← hgain, ndcg_eq_div hpos hrelevant hdiscounts,
      ndcg_eq_div hpos (by rwa [Ne, ← hempty]) hdiscounts, ← gainFrom_congr hsame,
      Except.ok.injEq]
    constructor
    · intro hequal
      by_contra hsomething
      rw [div_eq_mul_inv, div_eq_mul_inv] at hequal
      have hideal := inv_injective (mul_left_cancel₀ hsomething hequal)
      exact hdiffer (h.strictMono_ideal.injective hideal)
    · intro hnothing
      rw [hnothing, zero_div, zero_div]

theorem ndcg_of_relevant_first (h : Discounting) {cutoff : Int} (hpos : 0 < cutoff)
    (hdiscounts : Discounted retrieved cutoff) (hrelevant : relevant ≠ [])
    (hretrieved : retrieved.Nodup)
    (hlength : min relevant.toFinset.card (places cutoff) ≤ retrieved.length)
    (hfirst : ∀ docid ∈ retrieved.take (min relevant.toFinset.card (places cutoff)),
      docid ∈ relevant) :
    ∃ x ∈ Set.Ioc (0 : ℝ) 1, ndcg relevant retrieved cutoff = .ok x ∧
      (x = 1 ↔
        min relevant.length (places cutoff) = min relevant.toFinset.card (places cutoff)) := by
  have hideal := h.ideal_pos_of_ne_nil hpos hrelevant
  have hcard : 0 < relevant.toFinset.card :=
    Finset.card_pos.2 ((List.toFinset_nonempty_iff relevant).2 hrelevant)
  have hplaces := places_pos hpos
  have hreaches := (hdiscounts.resolve_left (by omega)).2
  have hgain : gainFrom relevant cutoff.toNat 0 retrieved =
      ideal (min relevant.toFinset.card (places cutoff)) := by
    refine h.gainFrom_eq_ideal hretrieved ?_ ?_ hlength hfirst
    · unfold places
      omega
    · unfold places
      omega
  have hquotient := h.div_ideal_mem_Icc hpos hrelevant hdiscounts hretrieved
  rw [hgain] at hquotient
  refine ⟨_, ⟨div_pos (h.ideal_pos (by omega)) hideal, hquotient.2⟩, ?_, ?_⟩
  · rw [ndcg_eq_div hpos hrelevant hdiscounts, hgain]
  · rw [div_eq_one_iff_eq hideal.ne', h.strictMono_ideal.injective.eq_iff, eq_comm]

end Exact

/-- The ideal gain counts the entries of a list and not its documents. Two lists of the same
documents give a ranking the same value where equally many of their entries have a place before the
cutoff, as always when neither repeats anything, and otherwise only if the ranking gains nothing or
there are no discounts. A ranking that starts with relevant documents has the value one exactly when
repetitions leave the ideal gain as it is. -/
theorem ndcg_of_repetitions [RealLogs] [Table.Memory] (h : Discounting)
    {relevant relevant' : List Int} (hsame : ∀ docid, docid ∈ relevant ↔ docid ∈ relevant') :
    (∀ {α : Type} [LogScalar α] (cutoff : Int) (retrieved : List Int),
      min relevant.length (places cutoff) = min relevant'.length (places cutoff) ∨
        ¬ Discounted retrieved cutoff →
      (ndcg relevant retrieved cutoff : Except Failure α) = ndcg relevant' retrieved cutoff) ∧
    (∀ (cutoff : Int) (retrieved : List Int),
      (ndcg relevant retrieved cutoff : Except Failure ℝ) = ndcg relevant' retrieved cutoff ↔
        min relevant.length (places cutoff) = min relevant'.length (places cutoff) ∨
          ¬ Discounted retrieved cutoff ∨
            ∀ docid ∈ retrieved.take cutoff.toNat, docid ∉ relevant) ∧
    ∀ (cutoff : Int) (retrieved : List Int), 0 < cutoff → Discounted retrieved cutoff →
      relevant ≠ [] → retrieved.Nodup →
      min relevant.toFinset.card (places cutoff) ≤ retrieved.length →
      (∀ docid ∈ retrieved.take (min relevant.toFinset.card (places cutoff)),
        docid ∈ relevant) →
      ∃ x ∈ Set.Ioc (0 : ℝ) 1, ndcg relevant retrieved cutoff = .ok x ∧
        (x = 1 ↔
          min relevant.length (places cutoff) = min relevant.toFinset.card (places cutoff)) :=
  ⟨fun _ _ => ndcg_congr hsame, ndcg_eq_ndcg_iff h hsame,
    fun _ _ => ndcg_of_relevant_first h⟩

theorem ndcg_of_repetitions_of_one :
    @Discounting .natural ∧ (∀ docid : Int, docid ∈ [1] ↔ docid ∈ [1, 1]) ∧
      @ndcg ℝ (@LogScalar.real .natural) .large [1] [1, 2] 5 ≠
        @ndcg ℝ (@LogScalar.real .natural) .large [1, 1] [1, 2] 5 ∧
      @ndcg ℝ (@LogScalar.real .natural) .large [1] [1, 2] 1 =
        @ndcg ℝ (@LogScalar.real .natural) .large [1, 1] [1, 2] 1 := by
  have hsame : ∀ docid : Int, docid ∈ [1] ↔ docid ∈ [1, 1] := by simp
  have hdiscounts : @Discounted .large [1, 2] 5 :=
    @discounted_of_le .large 5 (by decide) (by decide) [1, 2]
  obtain ⟨hplaces, hequal, -⟩ :=
    @ndcg_of_repetitions .natural .large discounting_natural _ _ hsame
  refine ⟨discounting_natural, hsame, fun hvalues => ?_, ?_⟩
  · rcases (hequal 5 [1, 2]).1 hvalues with hmin | hnone | hnothing
    · exact absurd hmin (by decide)
    · exact hnone hdiscounts
    · exact absurd hnothing (by decide)
  · exact @hplaces ℝ (@LogScalar.real .natural) 1 [1, 2] (.inl (by decide))

/-- The only relevant document comes first, which is worth less when it is named twice. -/
theorem ndcg_ne_of_repeated :
    @ndcg ℝ (@LogScalar.real .natural) .large [1] [1, 2] 5 = .ok 1 ∧
      ∃ x < (1 : ℝ), @ndcg ℝ (@LogScalar.real .natural) .large [1, 1] [1, 2] 5 = .ok x := by
  have hdiscounts : @Discounted .large [1, 2] 5 :=
    @discounted_of_le .large 5 (by decide) (by decide) [1, 2]
  obtain ⟨x, -, hx, hone⟩ := @ndcg_of_relevant_first [1] [1, 2] .natural .large
    discounting_natural 5 (by decide) hdiscounts (by decide) (by decide) (by decide) (by decide)
  obtain ⟨y, hbounds, hy, hless⟩ := @ndcg_of_relevant_first [1, 1] [1, 2] .natural .large
    discounting_natural 5 (by decide) hdiscounts (by decide) (by decide) (by decide) (by decide)
  rw [hone.2 (by decide)] at hx
  exact ⟨hx, y, lt_of_le_of_ne hbounds.2 fun hequal => absurd (hless.1 hequal) (by decide), hy⟩

end ProximityRanking.Metrics
