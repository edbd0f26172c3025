import ProximityRanking.Proofs.Visiting
/-!
Two runs side by side. Two computations agree when sessions that are related make both end in values
or both in failures, and the values and the sessions after them are related again. Sequences agree
part by part, and passes agree when their plans do step by step: then they alter the same rows in
the same way and are cut short at the same one.
-/
set_option autoImplicit false

namespace ProximityRanking

variable {σ α β γ δ ε : Type}

/-- Two ends of a computation: both in values, which are related with the sessions left behind, or
both in failures. -/
inductive EndsAlike (F : Failure → Failure → Prop)
    (V : β → γ → Session σ α → Session σ α → Prop) :
    Except Failure β × Session σ α → Except Failure γ × Session σ α → Prop
  | ok {x : β} {y : γ} {s s' : Session σ α} (h : V x y s s') : EndsAlike F V (.ok x, s) (.ok y, s')
  | error {e e' : Failure} {s s' : Session σ α} (h : F e e') :
    EndsAlike F V (.error e, s) (.error e', s')

theorem EndsAlike.imp {F : Failure → Failure → Prop}
    {V W : β → γ → Session σ α → Session σ α → Prop} {end₁ : Except Failure β × Session σ α}
    {end₂ : Except Failure γ × Session σ α} (h : EndsAlike F V end₁ end₂)
    (hVW : ∀ x y s s', V x y s s' → W x y s s') : EndsAlike F W end₁ end₂ := by
  cases h with
  | ok h => exact .ok (hVW _ _ _ _ h)
  | error h => exact .error h

theorem EndsAlike.map {F : Failure → Failure → Prop} {V : β → γ → Session σ α → Session σ α → Prop}
    {W : δ → ε → Session σ α → Session σ α → Prop} {f : β → δ} {g : γ → ε}
    {end₁ : Except Failure β × Session σ α} {end₂ : Except Failure γ × Session σ α}
    (h : EndsAlike F V end₁ end₂) (hVW : ∀ x y s s', V x y s s' → W (f x) (g y) s s') :
    EndsAlike F W (end₁.1.map f, end₁.2) (end₂.1.map g, end₂.2) := by
  cases h with
  | ok h => exact .ok (hVW _ _ _ _ h)
  | error h => exact .error h

theorem EndsAlike.of_rel {R : β → γ → Prop} {V : β → γ → Session σ α → Session σ α → Prop}
    {outcome : Except Failure β} {outcome' : Except Failure γ} {s s' : Session σ α}
    (h : Option.Rel R outcome.toOption outcome'.toOption) (hV : ∀ x y, R x y → V x y s s') :
    EndsAlike (fun _ _ => True) V (outcome, s) (outcome', s') := by
  cases outcome with
  | error e =>
    cases outcome' with
    | error e' => exact .error trivial
    | ok y => cases h
  | ok x =>
    cases outcome' with
    | error e' => cases h
    | ok y =>
      cases h with
      | some h => exact .ok (hV x y h)

namespace SessionM

/-- Two computations that end alike from related sessions. -/
def Agree (F : Failure → Failure → Prop) (R : Session σ α → Session σ α → Prop)
    (m : SessionM σ α β) (m' : SessionM σ α γ) (V : β → γ → Session σ α → Session σ α → Prop) :
    Prop :=
  ∀ s s', R s s' → EndsAlike F V (m.exec s) (m'.exec s')

def Same (R : Session σ α → Session σ α → Prop) (x y : β) (s s' : Session σ α) : Prop :=
  x = y ∧ R s s'

namespace Agree

variable {F : Failure → Failure → Prop} {R : Session σ α → Session σ α → Prop}
  {V : β → γ → Session σ α → Session σ α → Prop} {W : δ → ε → Session σ α → Session σ α → Prop}

theorem pure {x : β} {y : γ} (h : ∀ s s', R s s' → V x y s s') :
    Agree F R (Pure.pure x : SessionM σ α β) (Pure.pure y) V :=
  fun s s' hs => .ok (h s s' hs)

theorem bind {m : SessionM σ α β} {m' : SessionM σ α γ} {f : β → SessionM σ α δ}
    {f' : γ → SessionM σ α ε} (hm : Agree F R m m' V)
    (hf : ∀ x y, Agree F (V x y) (f x) (f' y) W) : Agree F R (m >>= f) (m' >>= f') W := by
  intro s s' hs
  have hends := hm s s' hs
  rw [exec_bind, exec_bind]
  rcases hrun : m.exec s with ⟨outcome, s₁⟩
  rcases hrun' : m'.exec s' with ⟨outcome', s₁'⟩
  rw [hrun, hrun'] at hends
  cases hends with
  | ok h => exact hf _ _ _ _ h
  | error h => exact .error h

theorem bind_same {m m' : SessionM σ α β} {f : β → SessionM σ α δ} {f' : β → SessionM σ α ε}
    {R' : Session σ α → Session σ α → Prop} (hm : Agree F R m m' (Same R'))
    (hf : ∀ x, Agree F R' (f x) (f' x) W) : Agree F R (m >>= f) (m' >>= f') W := by
  refine hm.bind fun x y s s' h => ?_
  obtain ⟨rfl, hs⟩ := h
  exact hf x s s' hs

theorem ofExcept (hF : ∀ e, F e e) (r : Except Failure β) :
    Agree F R (SessionM.ofExcept r) (SessionM.ofExcept r) (Same R) := by
  intro s s' hs
  rw [exec_ofExcept, exec_ofExcept]
  cases r with
  | ok x => exact .ok ⟨rfl, hs⟩
  | error e => exact .error (hF e)

theorem ofOption (hF : ∀ e, F e e) (e : Failure) (r : Option β) :
    Agree F R (SessionM.ofOption e r) (SessionM.ofOption e r) (Same R) := by
  intro s s' hs
  cases r with
  | some x => exact .ok ⟨rfl, hs⟩
  | none => exact .error (hF e)

theorem update {f f' : Session σ α → Session σ α} {R' : Session σ α → Session σ α → Prop}
    (h : ∀ s s', R s s' → R' (f s) (f' s')) :
    Agree F R (modify f : SessionM σ α PUnit) (modify f') (Same R') :=
  fun s s' hs => .ok ⟨rfl, h s s' hs⟩

theorem of_and {p : Prop} {m : SessionM σ α β} {m' : SessionM σ α γ}
    (h : p → Agree F R m m' V) : Agree F (fun s s' => p ∧ R s s') m m' V :=
  fun s s' hs => h hs.1 s s' hs.2

theorem andFinally_modify {m m' : SessionM σ α β} {f f' : Session σ α → Session σ α}
    {R' R'' : Session σ α → Session σ α → Prop} (hm : Agree F R m m' (Same R'))
    (hf : ∀ s s', R' s s' → R'' (f s) (f' s')) :
    Agree F R (andFinally m (modify f)) (andFinally m' (modify f')) (Same R'') := by
  intro s s' hs
  have hends := hm s s' hs
  rw [exec_andFinally_modify, exec_andFinally_modify]
  rcases hrun : m.exec s with ⟨outcome, s₁⟩
  rcases hrun' : m'.exec s' with ⟨outcome', s₁'⟩
  rw [hrun, hrun'] at hends
  cases hends with
  | ok h => exact .ok ⟨h.1, hf _ _ h.2⟩
  | error h => exact .error h

end Agree
end SessionM

variable [Scalar α]

namespace Pass

inductive StepsAgree (F : Failure → Failure → Prop) (R : Session σ α → Session σ α → Prop)
    (p p' : Pass σ α) : Step α → Step α → Prop
  | kept (row : Row α) : StepsAgree F R p p' (row, none) (row, none)
  | scored (row : Row α) {slots slots' : List (Slot α)}
    (h : SessionM.Agree F R (p.boost slots) (p'.boost slots') (SessionM.Same R)) :
    StepsAgree F R p p' (row, some slots) (row, some slots')

variable {F : Failure → Failure → Prop} {R : Session σ α → Session σ α → Prop} {p p' : Pass σ α}

theorem visit_agree {allZero : Bool} {rows rows' : List (Row α)} (hrows : rows = rows')
    {streams streams' : List Stream}
    (h : List.Forall₂ (StepsAgree F R p p') (p.plan allZero rows streams)
      (p'.plan allZero rows' streams'))
    {s s' : Session σ α} (hs : R s s') :
    (p.visit allZero rows streams s).1.rescored =
      (p'.visit allZero rows' streams' s').1.rescored ∧
    (p.visit allZero rows streams s).1.altered = (p'.visit allZero rows' streams' s').1.altered ∧
    Option.Rel F (p.visit allZero rows streams s).1.failure
      (p'.visit allZero rows' streams' s').1.failure := by
  subst hrows
  induction rows generalizing streams streams' s s' with
  | nil => exact ⟨rfl, rfl, .none⟩
  | cons row rest ih =>
    rcases hmeet : p.meet allZero row streams with ⟨streams₁, slots⟩
    rcases hmeet' : p'.meet allZero row streams' with ⟨streams₁', slots'⟩
    simp only [plan, hmeet, hmeet'] at h
    rw [visit_cons, visit_cons, hmeet, hmeet']
    cases h with
    | cons hstep hrest =>
      cases hstep with
      | kept =>
        obtain ⟨hrescored, haltered, hfailure⟩ := ih hs hrest
        exact ⟨congrArg (row :: ·) hrescored, haltered, hfailure⟩
      | @scored _ slots slots' hboosts =>
        have hends := hboosts s s' hs
        rcases hboost : (p.boost slots).exec s with ⟨outcome, s₁⟩
        rcases hboost' : (p'.boost slots').exec s' with ⟨outcome', s₁'⟩
        rw [hboost, hboost'] at hends
        simp only [hboost, hboost']
        cases hends with
        | error he => exact ⟨rfl, rfl, .some he⟩
        | ok hsame =>
          obtain ⟨rfl, hs₁⟩ := hsame
          obtain ⟨hrescored, haltered, hfailure⟩ := ih hs₁ hrest
          exact ⟨congrArg (_ :: ·) hrescored, congrArg (· + 1) haltered, hfailure⟩

end Pass

/-- Two passes ended alike: with one status, as many documents altered and the same results. -/
structure EndedAlike (F : Failure → Failure → Prop) (e e' : Outcome × ResultSet α) : Prop where
  status : e.1.status = e'.1.status
  altered : e.1.altered = e'.1.altered
  failure : Option.Rel F e.1.failure e'.1.failure
  results : e.2 = e'.2

namespace EndedAlike

variable {F : Failure → Failure → Prop}

omit [Scalar α] in
theorem skipped (results : ResultSet α) :
    EndedAlike F (.skipped, results) (.skipped, results) :=
  ⟨rfl, rfl, .none, rfl⟩

omit [Scalar α] in
theorem ended {n n' : Nat} {e e' : Option Failure} {results results' : ResultSet α} (hn : n = n')
    (he : Option.Rel F e e') (hresults : results = results') :
    EndedAlike F (.ended n e, results) (.ended n' e', results') := by
  cases he with
  | none => exact ⟨rfl, hn, .none, hresults⟩
  | some he => exact ⟨rfl, hn, .some he, hresults⟩

omit [Scalar α] in
theorem eq {e e' : Outcome × ResultSet α} (h : EndedAlike Eq e e') : e = e' := by
  obtain ⟨⟨status, altered, failure⟩, results⟩ := e
  obtain ⟨⟨status', altered', failure'⟩, results'⟩ := e'
  obtain ⟨hstatus, haltered, hfailure, hresults⟩ := h
  simp only at hstatus haltered hfailure hresults
  subst hstatus haltered hresults
  cases hfailure with
  | none => rfl
  | some he =>
    subst he
    rfl

end EndedAlike

namespace Pass

variable {F : Failure → Failure → Prop} {P R : Session σ α → Session σ α → Prop} {p p' : Pass σ α}

theorem run_agree (hsettings : p.settings = p'.settings) {phrase phrase' : Phrase α}
    {results : ResultSet α}
    (hready : SessionM.Agree F P (p.ready phrase) (p'.ready phrase') fun streams streams' s s' =>
      List.Forall₂ (StepsAgree F R p p')
        (p.plan (allZero results) (p.weighted results).rows streams)
        (p'.plan (allZero results) (p'.weighted results).rows streams') ∧ R s s')
    {s s' : Session σ α} (hs : P s s') :
    EndedAlike F (p.run phrase results s).1 (p'.run phrase' results s').1 := by
  have hends := hready s s' hs
  rcases hrun : (p.ready phrase).exec s with ⟨outcome, s₁⟩
  rcases hrun' : (p'.ready phrase').exec s' with ⟨outcome', s₁'⟩
  rw [hrun, hrun'] at hends
  cases hends with
  | error he =>
    rw [run_of_ready_error hrun, run_of_ready_error hrun']
    exact .ended rfl (.some he) rfl
  | @ok streams streams' _ _ h =>
    obtain ⟨hplans, hs₁⟩ := h
    have hrows : (p.weighted results).rows = (p'.weighted results).rows := by
      unfold weighted
      rw [hsettings]
    obtain ⟨hrescored, haltered, hfailure⟩ := visit_agree hrows hplans hs₁
    obtain ⟨results₁, hpass, hresults, -⟩ := run_of_ready_ok hrun (Prod.eta _).symm
    obtain ⟨results₁', hpass', hresults', -⟩ := run_of_ready_ok hrun' (Prod.eta _).symm
    rw [hpass, hpass']
    refine .ended haltered hfailure (ResultSet.eq_of_rows_eq ?_)
    rw [hresults, hresults', hrescored]

end Pass

namespace Rescorer

variable {F : Failure → Failure → Prop} {V : Phrase α → Phrase α → Session σ α → Session σ α → Prop}
  {r : Rescorer σ α} {settings : Settings α} {source source' : Source} {query query' : Query α}
  {results : ResultSet α} {s s' : Session σ α}

theorem run_agree
    (hopen : EndsAlike F V
      ((Phrase.ofQuery source query.filtered settings.splitSynonyms).exec (r.begun settings s))
      ((Phrase.ofQuery source' query'.filtered settings.splitSynonyms).exec (r.begun settings s')))
    (hsize : ∀ phrase phrase' s s', V phrase phrase' s s' → phrase.size = phrase'.size)
    (hpass : ∀ phrase phrase' s s' pairing, V phrase phrase' s s' → 2 ≤ phrase.size →
      settings.mode.pairing? = some pairing →
      EndedAlike F
        ((r.passOver settings pairing phrase).run phrase results (phrase.announced s)).1
        ((r.passOver settings pairing phrase').run phrase' results (phrase'.announced s')).1) :
    EndedAlike F (r.run (.ok settings) source query results s).1
      (r.run (.ok settings) source' query' results s').1 := by
  rw [run_eq, run_eq]
  rcases hrun : (Phrase.ofQuery source query.filtered settings.splitSynonyms).exec
    (r.begun settings s) with ⟨outcome, s₁⟩
  rcases hrun' : (Phrase.ofQuery source' query'.filtered settings.splitSynonyms).exec
    (r.begun settings s') with ⟨outcome', s₁'⟩
  rw [hrun, hrun'] at hopen
  cases hopen with
  | error he => exact .ended rfl (.some he) rfl
  | @ok phrase phrase' _ _ h =>
    have hsizes := hsize phrase phrase' _ _ h
    by_cases hfew : phrase.size < 2
    · simp only [runPhrase_of_lt r settings hfew, runPhrase_of_lt r settings (hsizes ▸ hfew)]
      exact .skipped results
    · have h2 : 2 ≤ phrase.size := by omega
      cases hmode : settings.mode.pairing? with
      | none =>
        simp only [runPhrase_of_unset h2 hmode, runPhrase_of_unset (hsizes ▸ h2) hmode]
        exact .skipped results
      | some pairing =>
        simp only [runPhrase_eq h2 hmode, runPhrase_eq (hsizes ▸ h2) hmode]
        exact hpass phrase phrase' _ _ pairing h h2 hmode

end Rescorer
end ProximityRanking
