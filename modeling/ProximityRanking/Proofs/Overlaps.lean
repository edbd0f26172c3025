import ProximityRanking.Proofs.Symmetry
import ProximityRanking.Proofs.Windows
/-!
How the two ways of counting go together. A window that has the positions in order holds both, and
one that holds both has them in one order or the other unless they coincide. Which windows are
looked at does not depend on the positions, so the counts compare as the windows do.
-/
set_option autoImplicit false

namespace ProximityRanking.Window

/-- What a pairing looks for in a window. -/
def Holds : Pairing → List Int → List Int → Int → Int → Prop
  | .adjacent => HoldsPair
  | .every => HoldsBoth

instance (pairing : Pairing) (a b : List Int) (window start : Int) :
    Decidable (Holds pairing a b window start) :=
  match pairing with
  | .adjacent => inferInstanceAs (Decidable (HoldsPair a b window start))
  | .every => inferInstanceAs (Decidable (HoldsBoth a b window start))

section Holds

variable {a b a' b' : List Int} {window start : Int}

theorem HoldsPair.holdsBoth (h : HoldsPair a b window start) : HoldsBoth a b window start := by
  obtain ⟨p, hp, q, hq, hstart, hlt, hend⟩ := h
  exact ⟨⟨p, hp, hstart, by omega⟩, q, hq, by omega, hend⟩

theorem HoldsBoth.symm (h : HoldsBoth a b window start) : HoldsBoth b a window start :=
  ⟨h.2, h.1⟩

theorem HoldsBoth.holdsPair_or (h : HoldsBoth a b window start) (hdisjoint : a.Disjoint b) :
    HoldsPair a b window start ∨ HoldsPair b a window start := by
  obtain ⟨⟨p, hp, hpstart, hpend⟩, q, hq, hqstart, hqend⟩ := h
  have hne : p ≠ q := fun heq => hdisjoint hp (heq ▸ hq)
  rcases Int.lt_or_gt_of_ne hne with hlt | hgt
  · exact .inl ⟨p, hp, q, hq, hpstart, hlt, hqend⟩
  · exact .inr ⟨q, hq, p, hp, hqstart, hgt, hpend⟩

theorem Holds.mono {pairing : Pairing} (h : Holds pairing a b window start) (ha : a ⊆ a')
    (hb : b ⊆ b') : Holds pairing a' b' window start := by
  cases pairing with
  | adjacent =>
    obtain ⟨p, hp, q, hq, hwindow⟩ := h
    exact ⟨p, ha hp, q, hb hq, hwindow⟩
  | every =>
    obtain ⟨⟨p, hp, hpwindow⟩, q, hq, hqwindow⟩ := h
    exact ⟨⟨p, ha hp, hpwindow⟩, q, hb hq, hqwindow⟩

end Holds

theorem sweepPairs_le (window : Int) (todo : Nat) (start : Int) (a b : List Int) (found : Nat) :
    sweepPairs window todo start a b found ≤ found + todo := by
  induction todo generalizing start a b found with
  | zero => exact Nat.le_refl found
  | succ todo ih =>
    unfold sweepPairs
    split
    · omega
    split
    · omega
    · refine (ih _ _ _ _).trans ?_
      split <;> omega

theorem sweepBoth_le (window : Int) (todo : Nat) (start : Int) (a b : List Int) (found : Nat) :
    sweepBoth window todo start a b found ≤ found + todo := by
  induction todo generalizing start a b found with
  | zero => exact Nat.le_refl found
  | succ todo ih =>
    unfold sweepBoth
    split
    · refine (ih _ _ _ _).trans ?_
      split <;> omega
    · omega

section CountFrom

variable {f g k : Int → Prop} [DecidablePred f] [DecidablePred g] [DecidablePred k]

theorem countFrom_mono (h : ∀ s, f s → g s) (start : Int) (todo : Nat) :
    countFrom f start todo ≤ countFrom g start todo :=
  List.countP_mono_left fun i _ hi => by simpa using h (start + i) (by simpa using hi)

theorem countFrom_le_add (h : ∀ s, f s → g s ∨ k s) (start : Int) (todo : Nat) :
    countFrom f start todo ≤ countFrom g start todo + countFrom k start todo := by
  induction todo generalizing start with
  | zero => exact Nat.le_refl 0
  | succ todo ih =>
    have hrest := ih (start + 1)
    have hfirst : (if f start then 1 else 0) ≤
        (if g start then 1 else 0) + (if k start then 1 else 0) := by
      by_cases hf : f start
      · rcases h start hf with hg | hk
        · simp [hf, hg]
        · simp [hf, hk]
      · simp [hf]
    simp only [countFrom_succ]
    omega

end CountFrom

section Counts

variable [Table.Memory] {a b : List Int} {window length : Int}

theorem count_nonneg {pairing : Pairing} {n : Int} (h : count pairing a b window length = .ok n) :
    0 ≤ n := by
  unfold count at h
  split at h
  · cases h
    exact Int.le_refl 0
  split at h
  · cases h
  split at h
  · cases h
  · cases pairing <;> cases h <;> exact Int.natCast_nonneg _

theorem count_mem_Icc [Table.Bounded] {pairing : Pairing} {n : Int}
    (h : count pairing a b window length = .ok n) : n ∈ Set.Icc 0 (windowCount window length) := by
  refine ⟨count_nonneg h, ?_⟩
  have hone := one_le_windowCount window length
  unfold count at h
  split at h
  · cases h
    omega
  split at h
  · cases h
  rename_i starts htable
  have hle := Table.Bounded.length_le htable
  have hreachable : reachable window starts ≤ starts := by
    unfold reachable
    omega
  split at h
  · cases h
  cases pairing with
  | adjacent =>
    have hsweep := sweepPairs_le window (reachable window starts) 0 a b 0
    cases h
    unfold countPairs
    omega
  | every =>
    have hsweep := sweepBoth_le window (reachable window starts) 0 a b 0
    cases h
    unfold countBoth
    omega

theorem exists_count (hroom : Table.Fits (windowCount window length).toNat)
    (hbits : fitsBits 64 window = true) (pairing : Pairing) (a b : List Int) :
    ∃ n, count pairing a b window length = .ok n := by
  unfold count
  split
  · exact ⟨0, rfl⟩
  · rw [hroom.length_eq]
    simp only [hbits]
    cases pairing with
    | adjacent => exact ⟨_, rfl⟩
    | every => exact ⟨_, rfl⟩

/-- How many windows are looked at for two lists that both have positions, unless their starts have
no room or the window has too many bits. -/
def starts? (window length : Int) : Except Failure Nat :=
  match Table.length (windowCount window length).toNat with
  | .error fault => .error (.table fault)
  | .ok starts => if fitsBits 64 window then .ok (reachable window starts) else .error .beyond64Bits

theorem count_eq_map (ha : a.Pairwise (· ≤ ·)) (hb : b.Pairwise (· ≤ ·)) (hane : a ≠ [])
    (hbne : b ≠ []) (pairing : Pairing) (window length : Int) :
    count pairing a b window length =
      (starts? window length).map fun n => (countFrom (Holds pairing a b window) 0 n : Int) := by
  have hempty : ¬ (a.isEmpty || b.isEmpty) = true := by simp [hane, hbne]
  unfold count starts?
  rw [if_neg hempty]
  cases Table.length (windowCount window length).toNat with
  | error fault => rfl
  | ok starts =>
    cases fitsBits 64 window with
    | false => rfl
    | true =>
      cases pairing with
      | adjacent =>
        simp only [countPairs, sweepPairs_eq window _ 0 a b 0 ha hb, Nat.zero_add]
        rfl
      | every =>
        simp only [countBoth, sweepBoth_eq window _ 0 a b 0 ha hb, Nat.zero_add]
        rfl

theorem count_mono {a' b' : List Int} (ha : a.Pairwise (· ≤ ·)) (hb : b.Pairwise (· ≤ ·))
    (ha' : a'.Pairwise (· ≤ ·)) (hb' : b'.Pairwise (· ≤ ·)) (hsubA : a ⊆ a') (hsubB : b ⊆ b')
    {pairing : Pairing} {n n' : Int} (h : count pairing a b window length = .ok n)
    (h' : count pairing a' b' window length = .ok n') : n ≤ n' := by
  by_cases hnil : a = [] ∨ b = []
  · rw [count_of_nil hnil] at h
    cases h
    exact count_nonneg h'
  · obtain ⟨hane, hbne⟩ := not_or.1 hnil
    have hane' : a' ≠ [] := fun heq => hane (List.subset_nil.1 (heq ▸ hsubA))
    have hbne' : b' ≠ [] := fun heq => hbne (List.subset_nil.1 (heq ▸ hsubB))
    rw [count_eq_map ha hb hane hbne] at h
    rw [count_eq_map ha' hb' hane' hbne'] at h'
    cases hstarts : starts? window length with
    | error e =>
      rw [hstarts] at h
      cases h
    | ok starts =>
      rw [hstarts] at h h'
      cases h
      cases h'
      exact Int.ofNat_le.2 (countFrom_mono (fun _ hs => hs.mono hsubA hsubB) 0 starts)

theorem exists_counts (ha : a.Pairwise (· ≤ ·)) (hb : b.Pairwise (· ≤ ·)) (hane : a ≠ [])
    (hbne : b ≠ []) {starts : Nat} (hstarts : starts? window length = .ok starts) :
    ∃ ordered reversed unordered : Nat,
      count .adjacent a b window length = .ok ordered ∧
      count .adjacent b a window length = .ok reversed ∧
      count .every a b window length = .ok unordered ∧
      ordered ≤ unordered ∧ reversed ≤ unordered ∧
      (a.Disjoint b → unordered ≤ ordered + reversed) := by
  have hcount : ∀ pairing, count pairing a b window length =
      .ok (countFrom (Holds pairing a b window) 0 starts) := by
    intro pairing
    rw [count_eq_map ha hb hane hbne, hstarts]
    rfl
  have hreversed : count .adjacent b a window length =
      .ok (countFrom (HoldsPair b a window) 0 starts) := by
    rw [count_eq_map hb ha hbne hane, hstarts]
    rfl
  refine ⟨_, _, _, hcount .adjacent, hreversed, hcount .every, ?_, ?_, fun hdisjoint => ?_⟩
  · exact countFrom_mono (fun _ h => HoldsPair.holdsBoth h) 0 starts
  · exact countFrom_mono (fun _ h => (HoldsPair.holdsBoth h).symm) 0 starts
  · exact countFrom_le_add (fun _ h => HoldsBoth.holdsPair_or h hdisjoint) 0 starts

/-- Ordered and unordered counts are consistent. Either both counters refuse both orders of the
lists alike, or they give numbers: in either order the ordered one is at most the unordered one,
which does not see the order and is at most the number of windows, and where the lists share no
position the two ordered ones come to no less. They do give numbers when the starts have room, and
more positions never make a number smaller. -/
theorem counts_consistent [Table.Bounded] (ha : a.Pairwise (· ≤ ·)) (hb : b.Pairwise (· ≤ ·))
    (window length : Int) :
    ((∃ e, ∀ pairing, count pairing a b window length = .error e ∧
        count pairing b a window length = .error e) ∨
      ∃ ordered reversed unordered : Int,
        count .adjacent a b window length = .ok ordered ∧
        count .adjacent b a window length = .ok reversed ∧
        count .every a b window length = .ok unordered ∧
        count .every b a window length = .ok unordered ∧
        ordered ≤ unordered ∧ reversed ≤ unordered ∧ unordered ≤ windowCount window length ∧
        (a.Disjoint b → unordered ≤ ordered + reversed)) ∧
    (Table.Fits (windowCount window length).toNat → fitsBits 64 window = true →
      ∀ pairing, ∃ n, count pairing a b window length = .ok n) ∧
    ∀ a' b', a'.Pairwise (· ≤ ·) → b'.Pairwise (· ≤ ·) → a ⊆ a' → b ⊆ b' →
      ∀ pairing n n', count pairing a b window length = .ok n →
        count pairing a' b' window length = .ok n' → n ≤ n' := by
  refine ⟨?_, fun hroom hbits pairing => exists_count hroom hbits pairing a b,
    fun a' b' ha' hb' hsubA hsubB pairing n n' h h' => count_mono ha hb ha' hb' hsubA hsubB h h'⟩
  by_cases hnil : a = [] ∨ b = []
  · have hone := one_le_windowCount window length
    exact .inr ⟨0, 0, 0, count_of_nil hnil _ _ _, count_of_nil hnil.symm _ _ _,
      count_of_nil hnil _ _ _, count_of_nil hnil.symm _ _ _, by omega, by omega, by omega,
      fun _ => by omega⟩
  · obtain ⟨hane, hbne⟩ := not_or.1 hnil
    cases hstarts : starts? window length with
    | error e =>
      refine .inl ⟨e, fun pairing => ?_⟩
      rw [count_eq_map ha hb hane hbne, count_eq_map hb ha hbne hane, hstarts]
      exact ⟨rfl, rfl⟩
    | ok starts =>
      obtain ⟨ordered, reversed, unordered, hordered, hreversed, hunordered, hle, hle',
        hdisjoint⟩ := exists_counts ha hb hane hbne hstarts
      have hmost := (count_mem_Icc hunordered).2
      refine .inr ⟨ordered, reversed, unordered, hordered, hreversed, hunordered,
        (count_every_comm b a window length).trans hunordered, by omega, by omega, by omega,
        fun h => ?_⟩
      have hcover := hdisjoint h
      omega

end Counts

attribute [local instance] Table.Memory.large Table.bounded_large

theorem counts_consistent_of_eight_tokens :
    [0, 5].Pairwise (· ≤ · : Int → Int → Prop) ∧ [1, 3].Pairwise (· ≤ · : Int → Int → Prop) ∧
      [0, 4, 5].Pairwise (· ≤ · : Int → Int → Prop) ∧ [0, 5].Disjoint ([1, 3] : List Int) ∧
      count .adjacent [0, 5] [1, 3] 3 8 = .ok 1 ∧ count .adjacent [1, 3] [0, 5] 3 8 = .ok 1 ∧
      count .every [0, 5] [1, 3] 3 8 = .ok 2 ∧ count .every [0, 4, 5] [1, 3] 3 8 = .ok 3 ∧
      (2 : Int) ≤ windowCount 3 8 ∧ (2 : Int) ≤ 1 + 1 ∧ (2 : Int) ≤ 3 := by
  have ha : [0, 5].Pairwise (· ≤ · : Int → Int → Prop) := by decide
  have hb : [1, 3].Pairwise (· ≤ · : Int → Int → Prop) := by decide
  have ha' : [0, 4, 5].Pairwise (· ≤ · : Int → Int → Prop) := by decide
  have hdisjoint : [0, 5].Disjoint ([1, 3] : List Int) := by simp [List.Disjoint]
  have hordered : count .adjacent [0, 5] [1, 3] 3 8 = .ok 1 := by decide
  have hreversed : count .adjacent [1, 3] [0, 5] 3 8 = .ok 1 := by decide
  have hunordered : count .every [0, 5] [1, 3] 3 8 = .ok 2 := by decide
  have hmore : count .every [0, 4, 5] [1, 3] 3 8 = .ok 3 := by decide
  obtain ⟨hcounts, -, hmono⟩ := counts_consistent ha hb 3 8
  have hle := hmono [0, 4, 5] [1, 3] ha' hb (by simp) (List.Subset.refl _) .every 2 3 hunordered
    hmore
  obtain ⟨_, _, _, h₁, h₂, h₃, -, -, -, hwindows, hcover⟩ := hcounts.resolve_left <| by
    rintro ⟨e, herror⟩
    have hrefused := (herror .adjacent).1
    rw [hordered] at hrefused
    cases hrefused
  cases hordered.symm.trans h₁
  cases hreversed.symm.trans h₂
  cases hunordered.symm.trans h₃
  exact ⟨ha, hb, ha', hdisjoint, hordered, hreversed, hunordered, hmore, hwindows,
    hcover hdisjoint, hle⟩

end ProximityRanking.Window
