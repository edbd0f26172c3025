import Mathlib.Data.Finset.Card
import Mathlib.Data.Int.Interval
import ProximityRanking.Proofs.Rounding
import ProximityRanking.Window
/-!
The sweeps count what they should. A sweep lets go of positions as its start moves on; on ascending
lists the positions that it lets go of are in no window that is still to come, so the number it ends
with is that of the starts whose window holds something.
-/
set_option autoImplicit false

namespace ProximityRanking.Window

theorem mem_dropWhile_iff {β : Type} {P : β → Bool} {l : List β}
    (hl : l.Pairwise fun x y => P y = true → P x = true) (x : β) :
    x ∈ l.dropWhile P ↔ x ∈ l ∧ P x = false := by
  induction l with
  | nil => simp
  | cons y l ih =>
    obtain ⟨hy, hl⟩ := List.pairwise_cons.1 hl
    by_cases h : P y = true
    · rw [List.dropWhile_cons_of_pos h, ih hl]
      constructor
      · rintro ⟨hx, hPx⟩
        exact ⟨List.mem_cons_of_mem y hx, hPx⟩
      · rintro ⟨hx, hPx⟩
        refine ⟨?_, hPx⟩
        rcases List.mem_cons.1 hx with rfl | hx
        · simp [h] at hPx
        · exact hx
    · rw [List.dropWhile_cons_of_neg h]
      refine ⟨fun hx => ⟨hx, ?_⟩, And.left⟩
      rcases List.mem_cons.1 hx with rfl | hx
      · simpa using h
      · by_contra hPx
        exact h (hy x hx (by simpa using hPx))

theorem mem_dropWhile_lt {l : List Int} (hl : l.Pairwise (· ≤ ·)) (k p : Int) :
    p ∈ l.dropWhile (· < k) ↔ p ∈ l ∧ k ≤ p := by
  rw [mem_dropWhile_iff (hl.imp fun {x y} hxy => by simp; omega)]
  simp

theorem mem_dropWhile_le {l : List Int} (hl : l.Pairwise (· ≤ ·)) (k p : Int) :
    p ∈ l.dropWhile (· ≤ k) ↔ p ∈ l ∧ k < p := by
  rw [mem_dropWhile_iff (hl.imp fun {x y} hxy => by simp; omega)]
  simp

theorem holdsPair_dropWhile {a b : List Int} (ha : a.Pairwise (· ≤ ·)) {window start s : Int}
    (hs : start ≤ s) :
    HoldsPair (a.dropWhile (· < start)) b window s ↔ HoldsPair a b window s := by
  unfold HoldsPair
  constructor
  · rintro ⟨p, hp, q, hq, h⟩
    exact ⟨p, ((mem_dropWhile_lt ha start p).1 hp).1, q, hq, h⟩
  · rintro ⟨p, hp, q, hq, h⟩
    exact ⟨p, (mem_dropWhile_lt ha start p).2 ⟨hp, by omega⟩, q, hq, h⟩

theorem holdsPair_dropWhile_le {p : Int} {a b : List Int} (ha : (p :: a).Pairwise (· ≤ ·))
    (hb : b.Pairwise (· ≤ ·)) (window s : Int) :
    HoldsPair (p :: a) (b.dropWhile (· ≤ p)) window s ↔ HoldsPair (p :: a) b window s := by
  unfold HoldsPair
  constructor
  · rintro ⟨x, hx, q, hq, h⟩
    exact ⟨x, hx, q, ((mem_dropWhile_le hb p q).1 hq).1, h⟩
  · rintro ⟨x, hx, q, hq, h⟩
    have hpx : p ≤ x := by
      rcases List.mem_cons.1 hx with rfl | hx
      · exact Int.le_refl x
      · exact (List.pairwise_cons.1 ha).1 x hx
    exact ⟨x, hx, q, (mem_dropWhile_le hb p q).2 ⟨hq, by omega⟩, h⟩

theorem holdsPair_cons {p q : Int} {a b : List Int} (hb : (q :: b).Pairwise (· ≤ ·))
    {window start : Int} (hp : start ≤ p) (hpq : p < q) :
    HoldsPair (p :: a) (q :: b) window start ↔ q < start + window := by
  unfold HoldsPair
  constructor
  · rintro ⟨x, -, y, hy, -, -, hlt⟩
    rcases List.mem_cons.1 hy with rfl | hy
    · exact hlt
    · have := (List.pairwise_cons.1 hb).1 y hy
      omega
  · intro h
    exact ⟨p, by simp, q, by simp, hp, hpq, h⟩

theorem not_holdsPair_of_nil {a b : List Int} (h : a = [] ∨ b = []) (window s : Int) :
    ¬ HoldsPair a b window s := by
  rcases h with rfl | rfl <;> simp [HoldsPair]

def countFrom (holds : Int → Prop) [DecidablePred holds] (start : Int) (todo : Nat) : Nat :=
  (List.range todo).countP fun i : Nat => holds (start + i)

theorem countFrom_congr {f g : Int → Prop} [DecidablePred f] [DecidablePred g] {start : Int}
    (h : ∀ s, start ≤ s → (f s ↔ g s)) (todo : Nat) :
    countFrom f start todo = countFrom g start todo := by
  unfold countFrom
  refine List.countP_congr fun i _ => ?_
  simpa using h (start + i) (by omega)

theorem countFrom_eq_zero {f : Int → Prop} [DecidablePred f] (h : ∀ s, ¬ f s) (start : Int)
    (todo : Nat) : countFrom f start todo = 0 := by
  unfold countFrom
  rw [List.countP_eq_zero]
  intro i _
  simpa using h (start + i)

theorem countFrom_succ (f : Int → Prop) [DecidablePred f] (start : Int) (todo : Nat) :
    countFrom f start (todo + 1) = (if f start then 1 else 0) + countFrom f (start + 1) todo := by
  unfold countFrom
  rw [List.range_succ_eq_map, List.countP_cons, List.countP_map, Nat.add_comm]
  congr 1
  · simp
  · refine List.countP_congr fun i _ => ?_
    simp [Int.add_assoc, Int.add_comm 1]

theorem sweepPairs_eq (window : Int) (todo : Nat) (start : Int) (a b : List Int) (found : Nat)
    (ha : a.Pairwise (· ≤ ·)) (hb : b.Pairwise (· ≤ ·)) :
    sweepPairs window todo start a b found =
      found + countFrom (HoldsPair a b window) start todo := by
  induction todo generalizing start a b found with
  | zero => rfl
  | succ todo ih =>
    -- What the sweep lets go of is in no window that is still to come.
    have hcongr : countFrom (HoldsPair a b window) start (todo + 1) =
        countFrom (HoldsPair (a.dropWhile (· < start)) b window) start (todo + 1) :=
      countFrom_congr (fun s hs => (holdsPair_dropWhile ha hs).symm) _
    rw [hcongr]
    have hsorted := ha.sublist (List.dropWhile_sublist (· < start))
    have hfirst : ∀ p ∈ a.dropWhile (· < start), start ≤ p :=
      fun p hp => ((mem_dropWhile_lt ha start p).1 hp).2
    unfold sweepPairs
    generalize a.dropWhile (· < start) = a at hsorted hfirst ⊢
    cases a with
    | nil => simp [countFrom_eq_zero (not_holdsPair_of_nil (.inl rfl) window)]
    | cons p a =>
      have hp := hfirst p (by simp)
      dsimp only
      have hcongr' : countFrom (HoldsPair (p :: a) b window) start (todo + 1) =
          countFrom (HoldsPair (p :: a) (b.dropWhile (· ≤ p)) window) start (todo + 1) :=
        countFrom_congr (fun s _ => (holdsPair_dropWhile_le hsorted hb window s).symm) _
      rw [hcongr']
      have hsorted' := hb.sublist (List.dropWhile_sublist (· ≤ p))
      have hfirst' : ∀ q ∈ b.dropWhile (· ≤ p), p < q :=
        fun q hq => ((mem_dropWhile_le hb p q).1 hq).2
      generalize b.dropWhile (· ≤ p) = b at hsorted' hfirst' ⊢
      cases b with
      | nil => simp [countFrom_eq_zero (not_holdsPair_of_nil (.inr rfl) window)]
      | cons q b =>
        have hq := hfirst' q (by simp)
        have hiff : HoldsPair (p :: a) (q :: b) window start ↔ q < start + window :=
          holdsPair_cons hsorted' hp hq
        -- The lists that are left ascend, so the starts after this one are those of `ih`.
        simp only [ih (start + 1) (p :: a) (q :: b) _ hsorted hsorted', countFrom_succ, hiff]
        split <;> omega

theorem exists_mem_dropWhile {l : List Int} (hl : l.Pairwise (· ≤ ·)) {window start s : Int}
    (hs : start ≤ s) :
    (∃ p ∈ l.dropWhile (· < start), s ≤ p ∧ p < s + window) ↔
      ∃ p ∈ l, s ≤ p ∧ p < s + window := by
  constructor
  · rintro ⟨p, hp, h⟩
    exact ⟨p, ((mem_dropWhile_lt hl start p).1 hp).1, h⟩
  · rintro ⟨p, hp, h⟩
    exact ⟨p, (mem_dropWhile_lt hl start p).2 ⟨hp, by omega⟩, h⟩

theorem exists_mem_cons {p : Int} {l : List Int} (hl : (p :: l).Pairwise (· ≤ ·))
    {window start : Int} (hp : start ≤ p) :
    (∃ x ∈ p :: l, start ≤ x ∧ x < start + window) ↔ p < start + window := by
  constructor
  · rintro ⟨x, hx, -, hlt⟩
    rcases List.mem_cons.1 hx with rfl | hx
    · exact hlt
    · have := (List.pairwise_cons.1 hl).1 x hx
      omega
  · intro h
    exact ⟨p, by simp, hp, h⟩

theorem holdsBoth_dropWhile {a b : List Int} (ha : a.Pairwise (· ≤ ·)) (hb : b.Pairwise (· ≤ ·))
    {window start s : Int} (hs : start ≤ s) :
    HoldsBoth (a.dropWhile (· < start)) (b.dropWhile (· < start)) window s ↔
      HoldsBoth a b window s := by
  unfold HoldsBoth
  rw [exists_mem_dropWhile ha hs, exists_mem_dropWhile hb hs]

theorem not_holdsBoth_of_nil {a b : List Int} (h : a = [] ∨ b = []) (window s : Int) :
    ¬ HoldsBoth a b window s := by
  rcases h with rfl | rfl <;> simp [HoldsBoth]

theorem sweepBoth_eq (window : Int) (todo : Nat) (start : Int) (a b : List Int) (found : Nat)
    (ha : a.Pairwise (· ≤ ·)) (hb : b.Pairwise (· ≤ ·)) :
    sweepBoth window todo start a b found =
      found + countFrom (HoldsBoth a b window) start todo := by
  induction todo generalizing start a b found with
  | zero => rfl
  | succ todo ih =>
    have hcongr : countFrom (HoldsBoth a b window) start (todo + 1) =
        countFrom (HoldsBoth (a.dropWhile (· < start)) (b.dropWhile (· < start)) window) start
          (todo + 1) :=
      countFrom_congr (fun s hs => (holdsBoth_dropWhile ha hb hs).symm) _
    rw [hcongr]
    have hsortedA := ha.sublist (List.dropWhile_sublist (· < start))
    have hsortedB := hb.sublist (List.dropWhile_sublist (· < start))
    have hfirstA : ∀ p ∈ a.dropWhile (· < start), start ≤ p :=
      fun p hp => ((mem_dropWhile_lt ha start p).1 hp).2
    have hfirstB : ∀ q ∈ b.dropWhile (· < start), start ≤ q :=
      fun q hq => ((mem_dropWhile_lt hb start q).1 hq).2
    unfold sweepBoth
    generalize a.dropWhile (· < start) = a at hsortedA hfirstA ⊢
    generalize b.dropWhile (· < start) = b at hsortedB hfirstB ⊢
    cases a with
    | nil => simp [countFrom_eq_zero (not_holdsBoth_of_nil (.inl rfl) window)]
    | cons p a =>
      cases b with
      | nil => simp [countFrom_eq_zero (not_holdsBoth_of_nil (.inr rfl) window)]
      | cons q b =>
        have hiff : HoldsBoth (p :: a) (q :: b) window start ↔
            p < start + window ∧ q < start + window := by
          unfold HoldsBoth
          rw [exists_mem_cons hsortedA (hfirstA p (by simp)),
            exists_mem_cons hsortedB (hfirstB q (by simp))]
        simp only [ih (start + 1) (p :: a) (q :: b) _ hsortedA hsortedB, countFrom_succ, hiff]
        split <;> omega

theorem countFrom_eq_card (f : Int → Prop) [DecidablePred f] (todo : Nat) :
    countFrom f 0 todo = ((Finset.Ico 0 (todo : Int)).filter f).card := by
  have himage : (Finset.Ico 0 (todo : Int)).filter f =
      ((Finset.range todo).filter fun i : Nat => f i).image Int.ofNat := by
    ext s
    simp only [Finset.mem_filter, Finset.mem_Ico, Finset.mem_image, Finset.mem_range]
    constructor
    · rintro ⟨⟨h0, hlt⟩, hf⟩
      refine ⟨s.toNat, ⟨by omega, ?_⟩, by simp [h0]⟩
      rwa [Int.toNat_of_nonneg h0]
    · rintro ⟨i, ⟨hi, hf⟩, rfl⟩
      exact ⟨⟨by simp, by simp; omega⟩, hf⟩
  rw [himage, Finset.card_image_of_injective _ Int.ofNat_injective]
  unfold countFrom
  rw [List.countP_eq_length_filter]
  simp only [Int.zero_add]
  rfl

/-- The starts of a table whose windows end within 64 bits and hold something. -/
noncomputable def matchingStarts (holds : Int → Prop) [DecidablePred holds] (window : Int)
    (starts : Nat) : Finset Int :=
  (Finset.Ico 0 (starts : Int)).filter fun s => s + window < 2 ^ 63 ∧ holds s

theorem countFrom_reachable (f : Int → Prop) [DecidablePred f] (window : Int) (starts : Nat) :
    countFrom f 0 (reachable window starts) = (matchingStarts f window starts).card := by
  rw [countFrom_eq_card]
  congr 1
  ext s
  simp only [matchingStarts, Finset.mem_filter, Finset.mem_Ico, reachable, limit]
  constructor
  · rintro ⟨hs, hf⟩
    exact ⟨by omega, by omega, hf⟩
  · rintro ⟨hs, hend, hf⟩
    exact ⟨by omega, hf⟩

theorem countPairs_eq_card {a b : List Int} (ha : a.Pairwise (· ≤ ·)) (hb : b.Pairwise (· ≤ ·))
    (window : Int) (starts : Nat) :
    countPairs a b window starts = (matchingStarts (HoldsPair a b window) window starts).card := by
  unfold countPairs
  rw [sweepPairs_eq window _ 0 a b 0 ha hb, Nat.zero_add, countFrom_reachable]

theorem countBoth_eq_card {a b : List Int} (ha : a.Pairwise (· ≤ ·)) (hb : b.Pairwise (· ≤ ·))
    (window : Int) (starts : Nat) :
    countBoth a b window starts = (matchingStarts (HoldsBoth a b window) window starts).card := by
  unfold countBoth
  rw [sweepBoth_eq window _ 0 a b 0 ha hb, Nat.zero_add, countFrom_reachable]

theorem matchingStarts_windowCount (holds : Int → Prop) [DecidablePred holds]
    {window length : Int} (hw : window < 2 ^ 63) (hl : length < 2 ^ 63) :
    matchingStarts holds window (windowCount window length).toNat =
      (Finset.Icc 0 (max (length - window) 0)).filter holds := by
  have hone := one_le_windowCount window length
  ext s
  simp only [matchingStarts, Finset.mem_filter, Finset.mem_Ico, Finset.mem_Icc]
  unfold windowCount at hone ⊢
  constructor
  · rintro ⟨hs, -, hholds⟩
    refine ⟨?_, hholds⟩
    split at hs <;> omega
  · rintro ⟨hs, hholds⟩
    refine ⟨?_, by omega, hholds⟩
    split <;> omega

section Tables

variable [Table.Memory] {a b : List Int} {window : Int}

theorem count_of_nil (h : a = [] ∨ b = []) (pairing : Pairing) (window length : Int) :
    count pairing a b window length = .ok 0 := by
  have hempty : (a.isEmpty || b.isEmpty) = true := by
    rcases h with rfl | rfl <;> simp
  unfold count
  rw [if_pos hempty]

theorem count_of_ne_nil (ha : a ≠ []) (hb : b ≠ []) (pairing : Pairing) (h1 : 1 ≤ window)
    (hw : window < 2 ^ 63) (length : Int) :
    count pairing a b window length =
      match Table.length (windowCount window length).toNat with
      | .error fault => .error (.table fault)
      | .ok starts =>
        match pairing with
        | .adjacent => .ok (countPairs a b window starts)
        | .every => .ok (countBoth a b window starts) := by
  have hempty : ¬ (a.isEmpty || b.isEmpty) = true := by simp [ha, hb]
  have hbits : fitsBits 64 window = true := (fitsBits_iff 64 window).2 ⟨by omega, hw⟩
  unfold count
  rw [if_neg hempty]
  cases Table.length (windowCount window length).toNat with
  | error fault => rfl
  | ok starts => cases pairing <;> simp [hbits]

/-- How many starts the table has when it can be laid out. -/
def tableStarts (window length : Int) : Nat :=
  Binary64.roundNat (windowCount window length).toNat

theorem count_of_fits (ha : a.Pairwise (· ≤ ·)) (hb : b.Pairwise (· ≤ ·)) (h1 : 1 ≤ window)
    (hw : window < 2 ^ 63) {length : Int}
    (hfits : Table.Fits (windowCount window length).toNat) :
    count .adjacent a b window length = .ok
        (matchingStarts (HoldsPair a b window) window (tableStarts window length)).card ∧
      count .every a b window length = .ok
        (matchingStarts (HoldsBoth a b window) window (tableStarts window length)).card := by
  by_cases h : a = [] ∨ b = []
  · have hnone : ∀ (f : Int → Prop) [DecidablePred f], (∀ s, ¬ f s) →
        matchingStarts f window (tableStarts window length) = ∅ :=
      fun f _ hf => Finset.filter_false_of_mem fun s _ hs => hf s hs.2
    rw [count_of_nil h, count_of_nil h, hnone _ (not_holdsPair_of_nil h window),
      hnone _ (not_holdsBoth_of_nil h window)]
    exact ⟨rfl, rfl⟩
  · obtain ⟨hane, hbne⟩ := not_or.1 h
    rw [count_of_ne_nil hane hbne .adjacent h1 hw, count_of_ne_nil hane hbne .every h1 hw,
      hfits.length_eq, ← countPairs_eq_card ha hb, ← countBoth_eq_card ha hb]
    exact ⟨rfl, rfl⟩

/-- Where the number of windows is a double and the table of the starts can be laid out, each
counter returns the number of starts whose window matches, and no number on the way needs more than
64 bits. Another number of windows is rounded, and then the starts are those of the table. Without
positions the answer is zero in any case; with positions on both sides a table without memory, or
with a size of more than 64 bits, is refused, and one of `2 ^ 63` starts stays empty. -/
theorem count_eq_card (ha : a.Pairwise (· ≤ ·)) (hb : b.Pairwise (· ≤ ·)) (h1 : 1 ≤ window)
    (hw : window < 2 ^ 63) {length : Int} (hl : length < 2 ^ 63) :
    (Table.Fits (windowCount window length).toNat →
      (tableStarts window length = windowCount window length →
        count .adjacent a b window length =
            .ok ((Finset.Icc 0 (max (length - window) 0)).filter (HoldsPair a b window)).card ∧
          count .every a b window length =
            .ok ((Finset.Icc 0 (max (length - window) 0)).filter (HoldsBoth a b window)).card) ∧
      count .adjacent a b window length = .ok
          (matchingStarts (HoldsPair a b window) window (tableStarts window length)).card ∧
        count .every a b window length = .ok
          (matchingStarts (HoldsBoth a b window) window (tableStarts window length)).card) ∧
    (a = [] ∨ b = [] → ∀ pairing, count pairing a b window length = .ok 0) ∧
    (a ≠ [] → b ≠ [] → ∀ pairing,
      (tableStarts window length < 2 ^ 60 →
        Table.Memory.capacity ≤ tableStarts window length →
        count pairing a b window length =
          .error (.table (.noMemory (tableStarts window length)))) ∧
      (2 ^ 60 ≤ tableStarts window length → tableStarts window length < 2 ^ 63 →
        count pairing a b window length = .error (.table .unaddressable)) ∧
      (tableStarts window length = 2 ^ 63 → count pairing a b window length = .ok 0)) ∧
    ∀ s, 0 ≤ s → s ≤ max (length - window) 0 →
      fitsBits 64 s ∧ fitsBits 64 (s + window) ∧ fitsBits 64 (s - 1) := by
  refine ⟨fun hfits => ⟨fun hstarts => ?_, count_of_fits ha hb h1 hw hfits⟩,
    fun h pairing => count_of_nil h pairing window length,
    fun hane hbne pairing => ⟨fun hsize hfull => ?_, fun hsize hlt => ?_, fun hlimit => ?_⟩,
    fun s h0 hs => ?_⟩
  · have hstarts : tableStarts window length = (windowCount window length).toNat := by omega
    rw [← matchingStarts_windowCount _ hw hl, ← matchingStarts_windowCount _ hw hl, ← hstarts]
    exact count_of_fits ha hb h1 hw hfits
  · have hbytes : Table.numberBytes * tableStarts window length < 2 ^ 63 := by
      rw [Table.numberBytes_mul]
      omega
    rw [count_of_ne_nil hane hbne pairing h1 hw, Table.length_of_full hbytes hfull]
    rfl
  · rw [count_of_ne_nil hane hbne pairing h1 hw, Table.length_of_unaddressable hsize hlt]
  · rw [count_of_ne_nil hane hbne pairing h1 hw, Table.length_of_empty hlimit]
    have hnone : ∀ f : Int → Prop, ∀ [DecidablePred f], matchingStarts f window 0 = ∅ := by
      intro f _
      simp [matchingStarts]
    cases pairing with
    | adjacent => simp [countPairs_eq_card ha hb, hnone]
    | every => simp [countBoth_eq_card ha hb, hnone]
  · simp only [fitsBits_iff]
    omega

end Tables

attribute [local instance] Table.Memory.large

theorem count_eq_card_of_eight_tokens :
    [0, 5].Pairwise (· ≤ ·) ∧ [1, 3].Pairwise (· ≤ ·) ∧ (1 : Int) ≤ 3 ∧ (3 : Int) < 2 ^ 63 ∧
      (8 : Int) < 2 ^ 63 ∧ Table.Fits (windowCount 3 8).toNat ∧
      tableStarts 3 8 = windowCount 3 8 ∧
      count .adjacent [0, 5] [1, 3] 3 8 = .ok 1 ∧ count .every [0, 5] [1, 3] 3 8 = .ok 2 := by
  have ha : [0, 5].Pairwise (· ≤ · : Int → Int → Prop) := by decide
  have hb : [1, 3].Pairwise (· ≤ · : Int → Int → Prop) := by decide
  have hfits : Table.Fits (windowCount 3 8).toNat := by decide
  have hstarts : tableStarts 3 8 = windowCount 3 8 := by decide
  obtain ⟨hordered, hunordered⟩ :=
    ((count_eq_card ha hb (by decide : (1 : Int) ≤ 3) (by decide)
      (by decide : (8 : Int) < 2 ^ 63)).1 hfits).1 hstarts
  refine ⟨by decide, by decide, by decide, by decide, by decide, hfits, hstarts, ?_, ?_⟩
  · rw [hordered]
    decide
  · rw [hunordered]
    decide

/-- Not so in the longest documents. Two neighbours at the start of a document lie in its first
window, but with `2 ^ 63 - 1` tokens the table of the starts stays empty and nothing is counted, and
with `2 ^ 62` it is refused. -/
theorem count_ne_card :
    (count .adjacent [0] [1] 2 (2 ^ 63 - 1) ≠
        .ok ((Finset.Icc 0 (max (2 ^ 63 - 1 - 2) 0)).filter (HoldsPair [0] [1] 2)).card ∧
      count .every [0] [1] 2 (2 ^ 63 - 1) ≠
        .ok ((Finset.Icc 0 (max (2 ^ 63 - 1 - 2) 0)).filter (HoldsBoth [0] [1] 2)).card) ∧
    (count .adjacent [0] [1] 2 (2 ^ 62) ≠
        .ok ((Finset.Icc 0 (max (2 ^ 62 - 2) 0)).filter (HoldsPair [0] [1] 2)).card ∧
      count .every [0] [1] 2 (2 ^ 62) ≠
        .ok ((Finset.Icc 0 (max (2 ^ 62 - 2) 0)).filter (HoldsBoth [0] [1] 2)).card) := by
  have hpair : 0 < ((Finset.Icc 0 (max (2 ^ 63 - 1 - 2) 0)).filter (HoldsPair [0] [1] 2)).card :=
    Finset.card_pos.2 ⟨0, Finset.mem_filter.2 ⟨Finset.mem_Icc.2 (by decide), by decide⟩⟩
  have hboth : 0 < ((Finset.Icc 0 (max (2 ^ 63 - 1 - 2) 0)).filter (HoldsBoth [0] [1] 2)).card :=
    Finset.card_pos.2 ⟨0, Finset.mem_filter.2 ⟨Finset.mem_Icc.2 (by decide), by decide⟩⟩
  -- The number of windows is rounded to the double `2 ^ 63`.
  have hordered : count .adjacent [0] [1] 2 (2 ^ 63 - 1) = .ok 0 := by decide +kernel
  have hunordered : count .every [0] [1] 2 (2 ^ 63 - 1) = .ok 0 := by decide +kernel
  have hrefused : ∀ pairing, count pairing [0] [1] 2 (2 ^ 62) = .error (.table .unaddressable) := by
    intro pairing
    cases pairing <;> decide +kernel
  refine ⟨⟨?_, ?_⟩, ?_, ?_⟩
  · rw [hordered]
    intro h
    have := Except.ok.inj h
    omega
  · rw [hunordered]
    intro h
    have := Except.ok.inj h
    omega
  · rw [hrefused]
    exact nofun
  · rw [hrefused]
    exact nofun

end ProximityRanking.Window
