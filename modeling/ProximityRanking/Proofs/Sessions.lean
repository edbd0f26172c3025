import Mathlib.Data.List.Basic
import ProximityRanking.Session
/-!
Running computations in a session. A sequence is run part by part, each part in the session that the
one before it left, and fails as the first part does that fails. `SessionM.KeepsOpened` says that a
computation leaves the streams alone, `Session.KeptIn` that a later session still has the streams of
an earlier one.
-/
set_option autoImplicit false

namespace ProximityRanking

variable {σ α β γ : Type}

namespace SessionM

@[simp] theorem exec_get (s : Session σ α) :
    (get : SessionM σ α (Session σ α)).exec s = (.ok s, s) := rfl

theorem exec_tryCatch_of_ok {m : SessionM σ α β} {s s' : Session σ α} {x : β}
    (h : m.exec s = (.ok x, s')) (handler : Failure → SessionM σ α β) :
    (tryCatch m handler).exec s = (.ok x, s') := by
  have hm : m s = (.ok x, s') := h
  simp only [exec, tryCatch, tryCatchThe, MonadExceptOf.tryCatch, ExceptT.tryCatch, ExceptT.mk,
    bind, StateT.bind, hm]
  rfl

theorem exec_tryCatch_of_error {m : SessionM σ α β} {s s' : Session σ α} {e : Failure}
    (h : m.exec s = (.error e, s')) (handler : Failure → SessionM σ α β) :
    (tryCatch m handler).exec s = (handler e).exec s' := by
  have hm : m s = (.error e, s') := h
  simp only [exec, tryCatch, tryCatchThe, MonadExceptOf.tryCatch, ExceptT.tryCatch, ExceptT.mk,
    bind, StateT.bind, hm]

theorem exec_bind_of_ok {m : SessionM σ α β} {s s' : Session σ α} {x : β}
    (h : m.exec s = (.ok x, s')) (f : β → SessionM σ α γ) : (m >>= f).exec s = (f x).exec s' := by
  rw [exec_bind, h]

theorem exec_bind_eq_ok {m : SessionM σ α β} {f : β → SessionM σ α γ} {s s'' : Session σ α}
    {y : γ} : (m >>= f).exec s = (.ok y, s'') ↔
      ∃ x s', m.exec s = (.ok x, s') ∧ (f x).exec s' = (.ok y, s'') := by
  rw [exec_bind]
  cases hm : m.exec s with
  | mk outcome s' =>
    cases outcome with
    | ok x => simp
    | error e => simp

theorem exec_bind_of_error {m : SessionM σ α β} {s s' : Session σ α} {e : Failure}
    (h : m.exec s = (.error e, s')) (f : β → SessionM σ α γ) :
    (m >>= f).exec s = (.error e, s') := by
  rw [exec_bind, h]

theorem exec_bind_eq_error_iff {m : SessionM σ α β} {f : β → SessionM σ α γ}
    {s s'' : Session σ α} {e : Failure} : (m >>= f).exec s = (.error e, s'') ↔
      m.exec s = (.error e, s'') ∨
        ∃ x s', m.exec s = (.ok x, s') ∧ (f x).exec s' = (.error e, s'') := by
  rw [exec_bind]
  cases hm : m.exec s with
  | mk outcome s' =>
    cases outcome with
    | ok x => simp
    | error e => simp

theorem exec_mapM_cons_eq_ok {f : β → SessionM σ α γ} {b : β} {l : List β} {s s'' : Session σ α}
    {ys : List γ} : ((b :: l).mapM f).exec s = (.ok ys, s'') ↔
      ∃ y s' ys', (f b).exec s = (.ok y, s') ∧ (l.mapM f).exec s' = (.ok ys', s'') ∧
        ys = y :: ys' := by
  simp only [List.mapM_cons, exec_bind_eq_ok, exec_pure, Prod.mk.injEq, Except.ok.injEq]
  constructor
  · rintro ⟨y, s', hy, ys', s₁, hys, rfl, rfl⟩
    exact ⟨y, s', ys', hy, hys, rfl⟩
  · rintro ⟨y, s', ys', hy, hys, rfl⟩
    exact ⟨y, s', hy, ys', s'', hys, rfl, rfl⟩

theorem exec_mapM_nil (f : β → SessionM σ α γ) (s : Session σ α) :
    (([] : List β).mapM f).exec s = (.ok [], s) := by
  rw [List.mapM_nil, exec_pure]

theorem length_of_exec_mapM {f : β → SessionM σ α γ} {l : List β} {s s' : Session σ α}
    {ys : List γ} (h : (l.mapM f).exec s = (.ok ys, s')) : ys.length = l.length := by
  induction l generalizing s ys with
  | nil =>
    rw [exec_mapM_nil] at h
    cases h
    rfl
  | cons b l ih =>
    obtain ⟨y, s₁, ys', -, hys, rfl⟩ := exec_mapM_cons_eq_ok.1 h
    rw [List.length_cons, List.length_cons, ih hys]

theorem exists_of_exec_mapM_ok {f : β → SessionM σ α γ} {l : List β} {s s' : Session σ α}
    {ys : List γ} (h : (l.mapM f).exec s = (.ok ys, s')) {b : β} (hb : b ∈ l) :
    ∃ y ∈ ys, ∃ s₁ s₂, (f b).exec s₁ = (.ok y, s₂) := by
  induction l generalizing s ys with
  | nil => cases hb
  | cons b' l ih =>
    obtain ⟨y, s₁, ys', hy, hys, rfl⟩ := exec_mapM_cons_eq_ok.1 h
    rcases List.mem_cons.1 hb with rfl | hb
    · exact ⟨y, List.mem_cons_self, s, s₁, hy⟩
    · obtain ⟨y', hy', hrun⟩ := ih hys hb
      exact ⟨y', List.mem_cons_of_mem y hy', hrun⟩

theorem exists_of_exec_mapM_error {f : β → SessionM σ α γ} {l : List β} {s s' : Session σ α}
    {e : Failure} (h : (l.mapM f).exec s = (.error e, s')) :
    ∃ before b after ys s₁, l = before ++ b :: after ∧ (before.mapM f).exec s = (.ok ys, s₁) ∧
      (f b).exec s₁ = (.error e, s') := by
  induction l generalizing s with
  | nil =>
    rw [exec_mapM_nil] at h
    cases h
  | cons b l ih =>
    rw [List.mapM_cons, exec_bind] at h
    rcases hb : (f b).exec s with ⟨outcome, s₁⟩
    rw [hb] at h
    cases outcome with
    | error e' =>
      obtain rfl : e' = e := Except.error.inj (congrArg Prod.fst h)
      obtain rfl : s₁ = s' := congrArg Prod.snd h
      exact ⟨[], b, l, [], s, rfl, exec_mapM_nil f s, hb⟩
    | ok y =>
      have hrest : (l.mapM f).exec s₁ = (.error e, s') := by
        simp only [exec_bind] at h
        rcases hl : (l.mapM f).exec s₁ with ⟨outcome, s₂⟩
        rw [hl] at h
        cases outcome with
        | error e' => exact h
        | ok ys => cases h
      obtain ⟨before, b', after, ys, s₂, rfl, hbefore, hb'⟩ := ih hrest
      exact ⟨b :: before, b', after, y :: ys, s₂, rfl,
        exec_mapM_cons_eq_ok.2 ⟨y, s₁, ys, hb, hbefore, rfl⟩, hb'⟩

theorem exec_foldlM_eq_error_iff {f : γ → β → SessionM σ α γ} {l : List β} {x : γ}
    {s s' : Session σ α} {e : Failure} : (l.foldlM f x).exec s = (.error e, s') ↔
      ∃ before b after x' s₁, l = before ++ b :: after ∧
        (before.foldlM f x).exec s = (.ok x', s₁) ∧ (f x' b).exec s₁ = (.error e, s') := by
  induction l generalizing x s with
  | nil => simp
  | cons b l ih =>
    rw [List.foldlM_cons, exec_bind_eq_error_iff]
    constructor
    · intro h
      obtain hb | ⟨x', s₁, hb, hl⟩ := h
      · exact ⟨[], b, l, x, s, rfl, rfl, hb⟩
      · obtain ⟨before, b', after, x'', s₂, rfl, hbefore, hb'⟩ := ih.1 hl
        refine ⟨b :: before, b', after, x'', s₂, rfl, ?_, hb'⟩
        rw [List.foldlM_cons, exec_bind_of_ok hb, hbefore]
    · intro h
      obtain ⟨before, b', after, x'', s₂, hl, hbefore, hb'⟩ := h
      cases before with
      | nil =>
        obtain ⟨rfl, rfl⟩ : b = b' ∧ l = after := by simpa using hl
        obtain ⟨rfl, rfl⟩ : x = x'' ∧ s = s₂ := by simpa using hbefore
        exact .inl hb'
      | cons b₀ before =>
        obtain ⟨rfl, rfl⟩ : b = b₀ ∧ l = before ++ b' :: after := by simpa using hl
        rw [List.foldlM_cons] at hbefore
        obtain ⟨x', s₁, hb, hbefore⟩ := exec_bind_eq_ok.1 hbefore
        exact .inr ⟨x', s₁, hb, ih.2 ⟨before, b', after, x'', s₂, rfl, hbefore, hb'⟩⟩

theorem exec_mapM_of_imp {f g : β → SessionM σ α γ}
    (h : ∀ b s y s', (f b).exec s = (.ok y, s') → (g b).exec s = (.ok y, s')) {l : List β}
    {s s' : Session σ α} {ys : List γ} (hf : (l.mapM f).exec s = (.ok ys, s')) :
    (l.mapM g).exec s = (.ok ys, s') := by
  induction l generalizing s ys with
  | nil => rwa [exec_mapM_nil] at hf ⊢
  | cons b l ih =>
    obtain ⟨y, s₁, ys', hb, hl, rfl⟩ := exec_mapM_cons_eq_ok.1 hf
    exact exec_mapM_cons_eq_ok.2 ⟨y, s₁, ys', h b s y s₁ hb, ih hl, rfl⟩

theorem exec_ofExcept (r : Except Failure β) (s : Session σ α) :
    (ofExcept r : SessionM σ α β).exec s = (r, s) := by
  cases r <;> rfl

theorem exec_count (counter : PairCounter) (request : CountRequest) (s : Session σ α) :
    (count counter request : SessionM σ α Int).exec s =
      match counter.count s.answered request with
      | .ok n => (.ok n, { s with answered := s.answered.push request })
      | .error e => (.error e, s) := by
  unfold count
  rw [exec_bind_of_ok (exec_get s)]
  cases counter.count s.answered request <;> rfl

theorem exec_openStream (source : Source) (opening : Opening) (s : Session σ α) :
    (openStream source opening : SessionM σ α (Option Nat)).exec s =
      match source.find s.opened opening with
      | .error e => (.error e, s)
      | .ok none => (.ok none, s)
      | .ok (some list) => (.ok (some s.opened.size), s.handOut list) := by
  unfold openStream
  rw [exec_bind_of_ok (exec_get s)]
  cases source.find s.opened opening with
  | error e => rfl
  | ok found => cases found <;> rfl

theorem exec_mapM_eq_map {Ready : Session σ α → Prop} {f : β → SessionM σ α γ} {g : β → γ}
    {l : List β} (h : ∀ b ∈ l, ∀ s, Ready s → ∃ s', (f b).exec s = (.ok (g b), s') ∧ Ready s')
    {s : Session σ α} (hs : Ready s) :
    ∃ s', (l.mapM f).exec s = (.ok (l.map g), s') ∧ Ready s' := by
  induction l generalizing s with
  | nil => exact ⟨s, exec_mapM_nil f s, hs⟩
  | cons b l ih =>
    obtain ⟨hb, hl⟩ := List.forall_mem_cons.1 h
    obtain ⟨s₁, hy, hs₁⟩ := hb s hs
    obtain ⟨s₂, hys, hs₂⟩ := ih hl hs₁
    exact ⟨s₂, exec_mapM_cons_eq_ok.2 ⟨_, s₁, _, hy, hys, rfl⟩, hs₂⟩

theorem exec_foldlM_eq_foldl {Ready : Session σ α → Prop} {f : γ → β → SessionM σ α γ}
    {g : γ → β → γ} {l : List β}
    (h : ∀ b ∈ l, ∀ y s, Ready s → ∃ s', (f y b).exec s = (.ok (g y b), s') ∧ Ready s')
    {s : Session σ α} (hs : Ready s) (y : γ) :
    ∃ s', (l.foldlM f y).exec s = (.ok (l.foldl g y), s') ∧ Ready s' := by
  induction l generalizing s y with
  | nil => exact ⟨s, by rw [List.foldlM_nil, exec_pure, List.foldl_nil], hs⟩
  | cons b l ih =>
    obtain ⟨hb, hl⟩ := List.forall_mem_cons.1 h
    obtain ⟨s₁, hy, hs₁⟩ := hb y s hs
    obtain ⟨s₂, hys, hs₂⟩ := ih hl hs₁ (g y b)
    exact ⟨s₂, by rw [List.foldlM_cons, exec_bind_of_ok hy, hys, List.foldl_cons], hs₂⟩

theorem exec_foldlM_of_forall {Ready : Session σ α → Prop} {f : γ → β → SessionM σ α γ}
    {l : List β} (h : ∀ b ∈ l, ∀ y s, Ready s → ∃ y' s', (f y b).exec s = (.ok y', s') ∧ Ready s')
    {s : Session σ α} (hs : Ready s) (y : γ) :
    ∃ y' s', (l.foldlM f y).exec s = (.ok y', s') ∧ Ready s' := by
  induction l generalizing s y with
  | nil => exact ⟨y, s, by rw [List.foldlM_nil, exec_pure], hs⟩
  | cons b l ih =>
    obtain ⟨hb, hl⟩ := List.forall_mem_cons.1 h
    obtain ⟨y₁, s₁, hy₁, hs₁⟩ := hb y s hs
    obtain ⟨y₂, s₂, hy₂, hs₂⟩ := ih hl hs₁ y₁
    exact ⟨y₂, s₂, by rw [List.foldlM_cons, exec_bind_of_ok hy₁, hy₂], hs₂⟩

end SessionM

theorem SessionM.exec_onScorer_set (scorer : σ) (s : Session σ α) :
    (onScorer (set scorer) : SessionM σ α PUnit).exec s = (.ok ⟨⟩, { s with scorer := scorer }) :=
  rfl

theorem SessionM.exec_andFinally_modify (m : SessionM σ α β) (f : Session σ α → Session σ α)
    (s : Session σ α) : (andFinally m (modify f)).exec s = ((m.exec s).1, f (m.exec s).2) := rfl

/-- A counter that has one answer for each request, whatever it answered before. -/
def PairCounter.Answers (counter : PairCounter) (answer : CountRequest → Except Failure Int) :
    Prop :=
  ∀ answered request, counter.count answered request = answer request

theorem PairCounter.answers_windows [Table.Memory] :
    windows.Answers fun r => Window.count r.pairing r.first r.second r.window r.length :=
  fun _ _ => rfl

/-- A computation that leaves the streams as they were. -/
def SessionM.KeepsOpened (m : SessionM σ α β) : Prop :=
  ∀ s : Session σ α, (m.exec s).2.opened = s.opened

namespace SessionM.KeepsOpened

theorem pure (x : β) : (Pure.pure x : SessionM σ α β).KeepsOpened :=
  fun _ => rfl

theorem bind {m : SessionM σ α β} {f : β → SessionM σ α γ} (hm : m.KeepsOpened)
    (hf : ∀ x, (f x).KeepsOpened) : (m >>= f).KeepsOpened := by
  intro s
  have hs := hm s
  rw [exec_bind]
  rcases hrun : m.exec s with ⟨outcome, s'⟩
  rw [hrun] at hs
  cases outcome with
  | ok x => exact (hf x s').trans hs
  | error e => exact hs

theorem report (e : Event α) : (modify (·.report e) : SessionM σ α Unit).KeepsOpened :=
  fun _ => rfl

theorem ofExcept (r : Except Failure β) : (SessionM.ofExcept r : SessionM σ α β).KeepsOpened := by
  intro s
  rw [exec_ofExcept]

theorem ofOption (e : Failure) (r : Option β) :
    (SessionM.ofOption e r : SessionM σ α β).KeepsOpened := by
  cases r <;> exact fun _ => rfl

theorem count (counter : PairCounter) (request : CountRequest) :
    (SessionM.count counter request : SessionM σ α Int).KeepsOpened := by
  intro s
  rw [exec_count]
  cases counter.count s.answered request <;> rfl

theorem onScorer (m : ExceptT Failure (StateM σ) β) :
    (SessionM.onScorer m : SessionM σ α β).KeepsOpened :=
  fun _ => rfl

end SessionM.KeepsOpened

theorem run_modify (f : Session σ α → Session σ α) (s : Session σ α) :
    (modify f : StateM (Session σ α) Unit) s = ((), f s) := rfl

theorem Session.stream_handOut_self (s : Session σ α) (list : PostingList) :
    (s.handOut list).stream s.opened.size = .ofList list := by
  simp [stream, handOut, Array.getD_eq_getD_getElem?]

theorem Session.stream_handOut_of_lt {s : Session σ α} {place : Nat} (h : place < s.opened.size)
    (list : PostingList) : (s.handOut list).stream place = s.stream place := by
  simp only [stream, handOut, Array.getD_eq_getD_getElem?, Array.getElem?_push, Nat.ne_of_lt h,
    if_false]

/-- A later session has all the streams of an earlier one as they were. The scoring function and
the counter have not been asked. -/
structure Session.KeptIn (s s' : Session σ α) : Prop where
  opened : ∀ (i : Nat) (stream : Stream), s.opened[i]? = some stream → s'.opened[i]? = some stream
  scorer : s'.scorer = s.scorer
  answered : s'.answered = s.answered

namespace Session.KeptIn

theorem refl (s : Session σ α) : s.KeptIn s :=
  ⟨fun _ _ h => h, rfl, rfl⟩

theorem trans {s s' s'' : Session σ α} (h : s.KeptIn s') (h' : s'.KeptIn s'') : s.KeptIn s'' :=
  ⟨fun i stream hi => h'.opened i stream (h.opened i stream hi), h'.scorer.trans h.scorer,
    h'.answered.trans h.answered⟩

theorem report (s : Session σ α) (e : Event α) : s.KeptIn (s.report e) :=
  ⟨fun _ _ h => h, rfl, rfl⟩

theorem handOut (s : Session σ α) (list : PostingList) : s.KeptIn (s.handOut list) := by
  refine ⟨fun i stream h => ?_, rfl, rfl⟩
  obtain ⟨hi, -⟩ := Array.getElem?_eq_some_iff.1 h
  simp only [Session.handOut, Array.getElem?_push, Nat.ne_of_lt hi, if_false, h]

theorem handOut_closeStream (s : Session σ α) (list : PostingList) :
    s.KeptIn ((s.handOut list).closeStream s.opened.size) := by
  refine ⟨fun i stream h => ?_, rfl, rfl⟩
  obtain ⟨hi, -⟩ := Array.getElem?_eq_some_iff.1 h
  have hne : ¬ s.opened.size = i := by omega
  simp only [Session.closeStream, Array.getElem?_modify, hne, if_false]
  exact (handOut s list).opened i stream h

end Session.KeptIn

end ProximityRanking
