import ProximityRanking.Text.Word
/-!
Texts that lower case leaves alone. The lower case of a code point never stands in a run of the
table again (`misses_of_mem`), and nothing has a capital sigma for its lower case. So what is in
lower case stays as it is, and so do the pieces of it in any order: of all characters only a capital
sigma looks at its neighbours.
-/
set_option autoImplicit false

namespace ProximityRanking.Text

namespace CaseRun

def Holds (r : CaseRun) (x : Nat) : Prop :=
  r.first ≤ x ∧ x ≤ r.last ∧ (x - r.first) % r.stride = 0

instance (r : CaseRun) (x : Nat) : Decidable (r.Holds x) :=
  inferInstanceAs (Decidable (_ ∧ _ ∧ _))

def image (r : CaseRun) (x : Nat) : Nat :=
  ((x : Int) + r.shift).toNat

/-- Nothing of the first run is taken into the second: its images lie below or above that, or they
fall between the code points of a run of every other one. -/
def misses (r s : CaseRun) : Bool :=
  (r.image r.last).blt s.first || s.last.blt (r.image r.first) ||
    ((r.first == r.last || r.stride == 2) && s.stride == 2 && (0).blt (r.image r.first) &&
      (r.image r.first + s.first) % 2 == 1)

theorem not_holds_image {r s : CaseRun} {x : Nat} (h : r.misses s = true) (hx : r.Holds x) :
    ¬ s.Holds (r.image x) := by
  obtain ⟨hfirst, hlast, hstep⟩ := hx
  rintro ⟨hfirst', hlast', hstep'⟩
  unfold misses image at h
  unfold image at hfirst' hlast' hstep'
  simp only [Bool.or_eq_true, Bool.and_eq_true, Nat.blt_eq, beq_iff_eq] at h
  obtain (hbelow | habove) | ⟨⟨⟨hr, hs⟩, hpos⟩, hodd⟩ := h
  · omega
  · omega
  · -- Images keep the step of their run, so each is an odd number of places into the second.
    rw [hs] at hstep'
    obtain hone | htwo := hr
    · omega
    · rw [htwo] at hstep
      omega

end CaseRun

def changingRuns : List CaseRun :=
  ⟨0x130, 0x130, 1, 0⟩ :: lowerRuns.toList

theorem misses_of_mem {r s : CaseRun} (hr : r ∈ lowerRuns.toList) (hs : s ∈ changingRuns) :
    r.misses s = true := by
  have htable : lowerRuns.toList.all (fun r => changingRuns.all r.misses) = true := by
    decide +kernel
  exact List.all_eq_true.1 (List.all_eq_true.1 htable r hr) s hs

theorem lowerCode_eq (x : Nat) :
    lowerCode x = x ∨ ∃ r ∈ lowerRuns.toList, r.Holds x ∧ lowerCode x = r.image x := by
  unfold lowerCode
  dsimp only
  split
  · exact .inl rfl
  · rename_i r hr
    split
    · rename_i hholds
      have hmem : r ∈ lowerRuns.toList := by simpa using Array.mem_of_getElem? hr
      exact .inr ⟨r, hmem, hholds, rfl⟩
    · exact .inl rfl

theorem lowerCode_eq_self {x : Nat} (h : ∀ r ∈ lowerRuns.toList, ¬ r.Holds x) :
    lowerCode x = x := by
  obtain hself | ⟨r, hr, hholds, -⟩ := lowerCode_eq x
  · exact hself
  · exact absurd hholds (h r hr)

def Unchanged (c : Char) : Prop :=
  c ≠ capitalSigma ∧ lowerChar c = [c]

instance (c : Char) : Decidable (Unchanged c) :=
  inferInstanceAs (Decidable (_ ∧ _))

theorem unchanged_of_not_holds {c : Char} (h : ∀ r ∈ changingRuns, ¬ r.Holds c.toNat) :
    Unchanged c := by
  refine ⟨?_, ?_⟩
  · rintro rfl
    have hsigma : changingRuns.any (fun r => r.Holds capitalSigma.toNat) = true := by
      decide +kernel
    obtain ⟨r, hr, hholds⟩ := List.any_eq_true.1 hsigma
    exact h r hr (of_decide_eq_true hholds)
  · have hdotted : c.toNat ≠ 0x130 := by
      intro heq
      exact h _ List.mem_cons_self (by rw [heq]; decide)
    have hcode : lowerCode c.toNat = c.toNat :=
      lowerCode_eq_self fun r hr => h r (List.mem_cons_of_mem _ hr)
    rw [lowerChar, if_neg hdotted, hcode, Char.ofNat_toNat]

theorem unchanged_of_mem_lowerChar {c c' : Char} (hc : c ≠ capitalSigma) (h : c' ∈ lowerChar c) :
    Unchanged c' := by
  by_cases hdotted : c.toNat = 0x130
  · rw [lowerChar, if_pos hdotted] at h
    have hboth : Unchanged 'i' ∧ Unchanged (Char.ofNat 0x307) := by decide +kernel
    rcases List.mem_cons.1 h with rfl | h
    · exact hboth.1
    · exact List.mem_singleton.1 h ▸ hboth.2
  · rw [lowerChar, if_neg hdotted, List.mem_singleton] at h
    obtain hself | ⟨r, hr, hholds, hcode⟩ := lowerCode_eq c.toNat
    · rw [hself, Char.ofNat_toNat] at h
      subst h
      exact ⟨hc, by rw [lowerChar, if_neg hdotted, hself, Char.ofNat_toNat]⟩
    · rw [hcode] at h
      by_cases hvalid : (r.image c.toNat).isValidChar
      · have hcode' : c'.toNat = r.image c.toNat := by
          rw [h, Char.ofNat, dif_pos hvalid]
          rfl
        refine unchanged_of_not_holds fun s hs => ?_
        rw [hcode']
        exact CaseRun.not_holds_image (misses_of_mem hr hs) hholds
      · -- No image lies outside the range of characters, but this need not be known.
        have hnull : c' = Char.ofNat 0 := by
          rw [h, Char.ofNat, dif_neg hvalid]
          rfl
        rw [hnull]
        decide +kernel

theorem unchanged_of_mem_lowerFrom {c : Char} {cs : List Char} {afterCased : Bool}
    (h : c ∈ lowerFrom afterCased cs) : Unchanged c := by
  induction cs generalizing afterCased with
  | nil => cases h
  | cons first rest ih =>
    simp only [lowerFrom] at h
    rcases List.mem_append.1 h with hfirst | hrest
    · split at hfirst
      · rw [List.mem_singleton] at hfirst
        have hsmall : Unchanged 'ς' ∧ Unchanged 'σ' := by decide +kernel
        split at hfirst
        · exact hfirst ▸ hsmall.1
        · exact hfirst ▸ hsmall.2
      · rename_i hne
        exact unchanged_of_mem_lowerChar hne hfirst
    · exact ih hrest

theorem lowerFrom_eq_self {cs : List Char} (h : ∀ c ∈ cs, Unchanged c) (afterCased : Bool) :
    lowerFrom afterCased cs = cs := by
  induction cs generalizing afterCased with
  | nil => rfl
  | cons first rest ih =>
    obtain ⟨hsigma, hfirst⟩ := h first List.mem_cons_self
    simp only [lowerFrom, if_neg hsigma, hfirst]
    rw [ih fun c hc => h c (List.mem_cons_of_mem _ hc)]
    rfl

theorem unchanged_of_mem_lower {c : Char} {s : String} (h : c ∈ (lower s).toList) :
    Unchanged c := by
  rw [lower, String.toList_ofList] at h
  exact unchanged_of_mem_lowerFrom h

theorem lower_eq_self_iff (s : String) : lower s = s ↔ ∀ c ∈ s.toList, Unchanged c := by
  constructor
  · intro h c hc
    rw [← h] at hc
    exact unchanged_of_mem_lower hc
  · intro h
    rw [lower, lowerFrom_eq_self h, String.ofList_toList]

end ProximityRanking.Text
