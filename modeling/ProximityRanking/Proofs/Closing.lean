import ProximityRanking.Proofs.Opening
import ProximityRanking.Proofs.Visiting
import ProximityRanking.Scoring
/-!
Streams that a run hands out are closed when it ends. While terms are opened, every open stream
belongs to the phrase (`Phrase.Holds`); after that nothing is handed out (`Session.OpensNone`), and
the phrase is closed at the end, or where an opening fails.
-/
set_option autoImplicit false

namespace ProximityRanking

variable {σ α β γ : Type}

namespace Session

/-- The streams that were handed out from one session to a later one. -/
def handedOut (s s' : Session σ α) : List Stream :=
  s'.opened.toList.drop s.opened.size

theorem mem_handedOut {s s' : Session σ α} {stream : Stream} :
    stream ∈ s.handedOut s' ↔ ∃ i, s.opened.size ≤ i ∧ s'.opened[i]? = some stream := by
  simp only [handedOut, List.mem_iff_getElem?, List.getElem?_drop, Array.getElem?_toList]
  constructor
  · intro h
    obtain ⟨i, hi⟩ := h
    exact ⟨s.opened.size + i, by omega, hi⟩
  · intro h
    obtain ⟨i, hle, hi⟩ := h
    exact ⟨i - s.opened.size, by rwa [Nat.add_sub_cancel' hle]⟩

/-- Nothing was handed out from one session to a later one, and what was closed still is. -/
structure OpensNone (s s' : Session σ α) : Prop where
  size : s'.opened.size = s.opened.size
  closed : ∀ (i : Nat) (stream stream' : Stream), s.opened[i]? = some stream →
    s'.opened[i]? = some stream' → stream.closed = true → stream'.closed = true

namespace OpensNone

theorem of_opened_eq {s s' : Session σ α} (h : s'.opened = s.opened) : s.OpensNone s' := by
  refine ⟨by rw [h], fun i stream stream' hi hi' hclosed => ?_⟩
  rw [h, hi] at hi'
  rwa [← Option.some.inj hi']

theorem refl (s : Session σ α) : s.OpensNone s :=
  of_opened_eq rfl

theorem trans {s s' s'' : Session σ α} (h : s.OpensNone s') (h' : s'.OpensNone s'') :
    s.OpensNone s'' := by
  refine ⟨h'.size.trans h.size, fun i stream stream'' hi hi'' hclosed => ?_⟩
  have hlt : i < s'.opened.size := by
    obtain ⟨hlt, -⟩ := Array.getElem?_eq_some_iff.1 hi
    rwa [h.size]
  have hi' := Array.getElem?_eq_getElem hlt
  exact h'.closed i _ _ hi' hi'' (h.closed i _ _ hi hi' hclosed)

end OpensNone

theorem getElem?_opened_closeStream (s : Session σ α) (place i : Nat) :
    (s.closeStream place).opened[i]? =
      if place = i then s.opened[i]?.map Stream.close else s.opened[i]? := by
  simp [closeStream, Array.getElem?_modify]

end Session

/-- A computation that hands out no stream, and leaves closed what is closed. -/
def SessionM.OpensNone (m : SessionM σ α β) : Prop :=
  ∀ s : Session σ α, s.OpensNone (m.exec s).2

theorem Rescorer.keepsOpened_scorePair [Scalar α] (r : Rescorer σ α) (pairing : Pairing)
    (window : Int) (i j : Nat) (a b : Sighting) :
    (r.scorePair pairing window i a j b).KeepsOpened := by
  unfold scorePair
  refine .bind (.ofExcept _) fun first => .bind (.ofExcept _) fun second => ?_
  refine .bind (.count _ _) fun matching => .bind (.onScorer _) fun score => ?_
  split
  · exact .bind (.report _) fun _ => .pure _
  · exact .pure score

namespace Pass

variable [Scalar α]

theorem keepsOpened_addPairs (p : Pass σ α) (pairs : List (Slot α × Slot α)) (total : α) :
    (p.addPairs pairs total).KeepsOpened := by
  induction pairs generalizing total with
  | nil => exact .pure total
  | cons pair rest ih =>
    obtain ⟨x, y⟩ := pair
    rw [addPairs.eq_def]
    simp only
    split
    · exact .bind (p.rescorer.keepsOpened_scorePair _ _ _ _ _ _) fun _ => ih _
    · exact ih total

theorem opened_visit (p : Pass σ α) (allZero : Bool) (rows : List (Row α))
    (streams : List Stream) (s : Session σ α) :
    (p.visit allZero rows streams s).2.opened = s.opened := by
  induction rows generalizing streams s with
  | nil => rfl
  | cons row rest ih =>
    rw [visit_cons]
    rcases p.meet allZero row streams with ⟨streams', slots⟩
    cases slots with
    | none => exact ih streams' s
    | some slots =>
      have hboost : ((p.boost slots).exec s).2.opened = s.opened :=
        p.keepsOpened_addPairs (p.pairing.pairs slots) 0.0 s
      rcases h : (p.boost slots).exec s with ⟨outcome, s'⟩
      rw [h] at hboost
      cases outcome with
      | error e => simpa only [h] using hboost
      | ok x => simpa only [h] using (ih streams' s').trans hboost

theorem opensNone_ready {p : Pass σ α}
    (hprepare : ∀ preparation, (p.rescorer.function.prepare preparation).OpensNone)
    (phrase : Phrase α) : (p.ready phrase).OpensNone := by
  intro s
  cases haverage : (phrase.source.statistics.averageWindows? p.settings.window : Option α) with
  | none =>
    rw [ready_of_none haverage]
    exact .of_opened_eq rfl
  | some average =>
    rw [exec_ready haverage]
    exact hprepare (p.preparation phrase average) s

theorem opensNone_run {p : Pass σ α}
    (hprepare : ∀ preparation, (p.rescorer.function.prepare preparation).OpensNone)
    (phrase : Phrase α) (results : ResultSet α) (s : Session σ α) :
    s.OpensNone (p.run phrase results s).2 := by
  have hs := opensNone_ready hprepare phrase s
  rcases hready : (p.ready phrase).exec s with ⟨outcome, s₁⟩
  rw [hready] at hs
  cases outcome with
  | error e =>
    rw [run_of_ready_error hready]
    exact hs
  | ok streams =>
    have hvisit := p.opened_visit (allZero results) (p.weighted results).rows streams s₁
    rcases h : p.visit (allZero results) (p.weighted results).rows streams s₁ with ⟨progress, s₂⟩
    rw [h] at hvisit
    obtain ⟨results', hrun, -, -⟩ := run_of_ready_ok hready h
    rw [hrun]
    exact hs.trans (.of_opened_eq hvisit)

end Pass

namespace Phrase

theorem opened_announced (phrase : Phrase α) (s : Session σ α) :
    (phrase.announced s).opened = s.opened := by
  unfold announced
  induction phrase.terms generalizing s with
  | nil => rfl
  | cons t terms ih => exact ih _

theorem getElem?_opened_closeIn (p : Phrase α) (s : Session σ α) (i : Nat) :
    (p.closeIn s).opened[i]? =
      if i ∈ p.terms.map PhraseTerm.stream then s.opened[i]?.map Stream.close
      else s.opened[i]? := by
  unfold closeIn
  induction p.terms generalizing s with
  | nil => rfl
  | cons t terms ih =>
    rw [List.foldl_cons, ih, Session.getElem?_opened_closeStream]
    by_cases ht : t.stream = i
    · have hmem : i ∈ (t :: terms).map PhraseTerm.stream := by simp [ht]
      have hclose : Stream.close ∘ Stream.close = Stream.close := rfl
      rw [if_pos hmem, if_pos ht, Option.map_map, hclose, ite_self]
    · have ht' : ¬ i = t.stream := fun h => ht h.symm
      simp [ht, ht']

def Holds (p : Phrase α) (first : Nat) (s : Session σ α) : Prop :=
  ∀ (i : Nat) (stream : Stream), first ≤ i → s.opened[i]? = some stream →
    stream.closed = true ∨ i ∈ p.terms.map PhraseTerm.stream

namespace Holds

variable {p : Phrase α} {first : Nat} {s s' : Session σ α}

theorem opensNone (h : p.Holds first s) (hs : s.OpensNone s') : p.Holds first s' := by
  intro i stream' hi hstream'
  have hlt : i < s.opened.size := by
    obtain ⟨hlt, -⟩ := Array.getElem?_eq_some_iff.1 hstream'
    rwa [← hs.size]
  have hstream := Array.getElem?_eq_getElem hlt
  rcases h i _ hi hstream with hclosed | hmem
  · exact .inl (hs.closed i _ _ hstream hstream' hclosed)
  · exact .inr hmem

theorem closeIn (h : p.Holds first s) {i : Nat} {stream : Stream} (hi : first ≤ i)
    (hstream : (p.closeIn s).opened[i]? = some stream) : stream.closed = true := by
  rw [getElem?_opened_closeIn] at hstream
  split at hstream
  · obtain ⟨stream', -, rfl⟩ := Option.map_eq_some_iff.1 hstream
    rfl
  · rename_i hmem
    exact (h i stream hi hstream).resolve_right hmem

theorem handOut (h : p.Holds first s) (list : PostingList) {t : PhraseTerm α}
    (ht : t.stream = s.opened.size) : (p.push t).Holds first (s.handOut list) := by
  intro i stream hi hstream
  simp only [Session.handOut, Array.getElem?_push] at hstream
  split at hstream
  · rename_i hsize
    exact .inr (by simp [push, ht, hsize])
  · rcases h i stream hi hstream with hclosed | hmem
    · exact .inl hclosed
    · exact .inr (by rw [push, List.map_append]; exact List.mem_append_left _ hmem)

theorem handOut_closeStream [Scalar α] (h : p.Holds first s) (list : PostingList) (text : String)
    (weight : α) :
    (p.addWeight text weight).Holds first ((s.handOut list).closeStream s.opened.size) := by
  have hstreams : (p.addWeight text weight).terms.map PhraseTerm.stream =
      p.terms.map PhraseTerm.stream := by
    unfold addWeight
    rw [List.map_map]
    refine List.map_congr_left fun t _ => ?_
    simp only [Function.comp_apply]
    split <;> rfl
  intro i stream hi hstream
  rw [Session.getElem?_opened_closeStream] at hstream
  rw [hstreams]
  split at hstream
  · obtain ⟨stream', -, rfl⟩ := Option.map_eq_some_iff.1 hstream
    exact .inl rfl
  · rename_i hsize
    have hsize' : ¬ i = s.opened.size := fun h => hsize h.symm
    simp only [Session.handOut, Array.getElem?_push, hsize', if_false] at hstream
    exact h i stream hi hstream

variable [Scalar α]

theorem carryOut (h : p.Holds first s) {p' : Phrase α} {r : OpeningRequest α}
    (hrun : (p.carryOut r).exec s = (.ok p', s')) : p'.Holds first s' := by
  rw [exec_carryOut] at hrun
  cases hfind : p.source.find s.opened r.opening with
  | error e => simp [hfind] at hrun
  | ok found =>
    cases found with
    | none =>
      obtain ⟨rfl, rfl⟩ : p = p' ∧ s.report (.termNotFound r.text) = s' := by
        simpa [hfind] using hrun
      exact h
    | some list =>
      cases hcontains : p.contains r.text with
      | true =>
        obtain ⟨rfl, rfl⟩ : p.addWeight r.text r.weight = p' ∧
            (s.handOut list).closeStream s.opened.size = s' := by
          simpa [hfind, hcontains] using hrun
        exact h.handOut_closeStream list r.text r.weight
      | false =>
        obtain ⟨rfl, rfl⟩ : p.push ⟨r.text, r.weight, r.opening, s.opened.size⟩ = p' ∧
            s.handOut list = s' := by
          simpa [hfind, hcontains] using hrun
        exact h.handOut list rfl

theorem carryOutAll (h : p.Holds first s) {p' : Phrase α} {requests : List (OpeningRequest α)}
    (hrun : (p.carryOutAll requests).exec s = (.ok p', s')) : p'.Holds first s' :=
  carryOutAll_invariant (fun _ _ _ _ _ h hrun => carryOut h hrun) h hrun

theorem closed_of_carryOutAll_error (h : p.Holds first s) {requests : List (OpeningRequest α)}
    {e : Failure} (hrun : (p.carryOutAll requests).exec s = (.error e, s')) {i : Nat}
    {stream : Stream} (hi : first ≤ i) (hstream : s'.opened[i]? = some stream) :
    stream.closed = true := by
  obtain ⟨before, r, after, p', s₁, -, hbefore, -, rfl⟩ := carryOutAll_eq_error_iff.1 hrun
  exact (h.carryOutAll hbefore).closeIn hi hstream

end Holds
end Phrase

namespace Rescorer

theorem opened_begun (r : Rescorer σ α) (settings : Settings α) (s : Session σ α) :
    (r.begun settings s).opened = s.opened := by
  unfold begun
  split <;> rfl

theorem opened_reportEnd (r : Rescorer σ α) (o : Outcome) (s : Session σ α) :
    (r.reportEnd o s).2.opened = s.opened := by
  obtain ⟨status, altered, failure⟩ := o
  cases status <;> cases failure <;> rfl

variable [Scalar α]

theorem opensNone_runPhrase {r : Rescorer σ α}
    (hprepare : ∀ preparation, (r.function.prepare preparation).OpensNone) (settings : Settings α)
    (phrase : Phrase α) (results : ResultSet α) (s : Session σ α) :
    s.OpensNone (r.runPhrase settings phrase results s).2 := by
  by_cases hsize : 2 ≤ phrase.size
  · have hannounced := Session.OpensNone.of_opened_eq (phrase.opened_announced s)
    cases hmode : settings.mode.pairing? with
    | none =>
      rw [runPhrase_of_unset hsize hmode]
      exact hannounced.trans (.of_opened_eq rfl)
    | some pairing =>
      rw [runPhrase_eq hsize hmode]
      exact hannounced.trans (Pass.opensNone_run hprepare phrase results _)
  · rw [runPhrase_of_lt r settings (Nat.lt_of_not_le hsize)]
    exact .refl s

/-- Whatever the settings, the source, the counter and the scores do, a run leaves no stream open
that it was handed, if the preparation of its scoring function opens none. -/
theorem closed_of_mem_handedOut_run {r : Rescorer σ α}
    (hprepare : ∀ preparation, (r.function.prepare preparation).OpensNone)
    (reading : Except Settings.Fault (Settings α)) (source : Source) (query : Query α)
    (results : ResultSet α) (s : Session σ α) :
    ∀ stream ∈ s.handedOut (r.run reading source query results s).2, stream.closed = true := by
  intro stream hstream
  obtain ⟨i, hi, hstream⟩ := Session.mem_handedOut.1 hstream
  cases reading with
  | error fault =>
    -- Nothing is opened under settings that cannot be read.
    obtain ⟨hlt, -⟩ := Array.getElem?_eq_some_iff.1 hstream
    exact absurd hlt (Nat.not_lt.2 hi)
  | ok settings =>
    have hempty : (Phrase.mk source []).Holds s.opened.size (r.begun settings s) := by
      intro j stream' hj hstream'
      rw [opened_begun] at hstream'
      obtain ⟨hlt, -⟩ := Array.getElem?_eq_some_iff.1 hstream'
      omega
    rw [run_eq] at hstream
    rcases hopen : (Phrase.ofQuery source query.filtered settings.splitSynonyms).exec
      (r.begun settings s) with ⟨outcome, s₁⟩
    rw [hopen] at hstream
    cases outcome with
    | error e =>
      rw [opened_reportEnd] at hstream
      exact hempty.closed_of_carryOutAll_error hopen hi hstream
    | ok phrase =>
      have hquiet := opensNone_runPhrase hprepare settings phrase results s₁
      rcases hrun : r.runPhrase settings phrase results s₁ with ⟨⟨outcome, results'⟩, s₂⟩
      rw [hrun] at hquiet
      simp only [hrun, opened_reportEnd] at hstream
      exact ((hempty.carryOutAll hopen).opensNone hquiet).closeIn hi hstream

end Rescorer

theorem ScoringFunction.opensNone_ofScore [Scalar α] (name : String)
    (score : Binding α → Int → Int → Except Failure α) (preparation : Preparation α) :
    ((ofScore name score).prepare preparation).OpensNone :=
  fun s => .of_opened_eq (SessionM.KeepsOpened.onScorer _ s)

def Query.grouped : Query Float :=
  .ofTerms none [⟨"a", 1.0, .base, []⟩, .synonym ["a", "c"] 1.0, ⟨"b", 1.0, .base, []⟩]

theorem requests_grouped : Query.grouped.filtered.requests true =
    [⟨"a", 1.0, .term "a"⟩, ⟨"a", 1.0, .term "a"⟩, ⟨"c", 1.0, .term "c"⟩,
      ⟨"b", 1.0, .term "b"⟩] := by
  have ha : (QueryTerm.mk "a" (1.0 : Float) .base []).isPseudo = false := by decide +kernel
  have hb : (QueryTerm.mk "b" (1.0 : Float) .base []).isPseudo = false := by decide +kernel
  have htext : (QueryTerm.synonym ["a", "c"] (1.0 : Float)).text = "#syn(a c)" := by
    decide +kernel
  have hsynonym : (QueryTerm.synonym ["a", "c"] (1.0 : Float)).isPseudo = false := by
    decide +kernel
  simp [Query.grouped, Query.ofTerms, Query.filtered, Query.requests, Query.terms, Query.add,
    Roster.values, upsert, Query.empty, ha, hb, htext, hsynonym, QueryTerm.requests]
  simp [QueryTerm.synonym]

def Source.refusing : Source where
  find _ opening :=
    if opening = .term "b" then .error (.reported "no postings for b")
    else .ok (some ⟨none, #[⟨0, 2, [0]⟩], true⟩)
  statistics := ⟨1, 2⟩

attribute [local instance] Table.Memory.large

def Rescorer.normalised : Rescorer (Binding Float) Float :=
  ⟨Scoring.normalisedCount, .windows⟩

theorem closed_of_refused_term :
    ((Session.start Float Binding.unbound).handedOut (Rescorer.normalised.run (.ok .neighbours)
      .refusing .grouped ⟨[], by decide⟩ (.start Float .unbound)).2).map Stream.closed =
        List.replicate 3 true := by
  rw [List.eq_replicate_iff]
  constructor
  · have hsplit : Settings.neighbours.splitSynonyms = true := rfl
    rw [List.length_map, Rescorer.run_eq]
    unfold Phrase.ofQuery
    rw [hsplit, requests_grouped]
    rfl
  · intro closed hclosed
    obtain ⟨stream, hstream, rfl⟩ := List.mem_map.1 hclosed
    exact Rescorer.closed_of_mem_handedOut_run (ScoringFunction.opensNone_ofScore _ _) _ _ _ _ _
      stream hstream

end ProximityRanking
