import Mathlib.Data.List.Forall2
import ProximityRanking.Phrase
import ProximityRanking.Proofs.Sessions
/-!
Opening a query. It fails at the first request that the source refuses, and what each request keeps
is kept by all of them. Over a source that has one answer for each opening it never fails, and what
it opens can be said without streams: the terms that are found are taken in one by one, and every
term of the phrase has a stream at the start of its postings. An index is such a source;
`Index.openTerms` has the texts, weights and postings of the phrase.
-/
set_option autoImplicit false

namespace ProximityRanking

variable {σ α : Type}

theorem map_eq_map_of_forall₂ {β γ δ : Type} {R : β → γ → Prop} {f : β → δ} {g : γ → δ}
    {l : List β} {l' : List γ} (h : List.Forall₂ R l l') (himage : ∀ a b, R a b → f a = g b) :
    l.map f = l'.map g := by
  rw [← List.forall₂_eq_eq_eq, List.forall₂_map_left_iff, List.forall₂_map_right_iff]
  exact h.imp himage

namespace Phrase

variable [Scalar α]

theorem exec_carryOut (p : Phrase α) (r : OpeningRequest α) (s : Session σ α) :
    (p.carryOut r).exec s =
      match p.source.find s.opened r.opening with
      | .error e => (.error e, s)
      | .ok none => (.ok p, s.report (.termNotFound r.text))
      | .ok (some list) =>
        if p.contains r.text then
          (.ok (p.addWeight r.text r.weight), (s.handOut list).closeStream s.opened.size)
        else (.ok (p.push ⟨r.text, r.weight, r.opening, s.opened.size⟩), s.handOut list) := by
  unfold carryOut
  rw [SessionM.exec_bind, SessionM.exec_openStream]
  cases p.source.find s.opened r.opening with
  | error e => rfl
  | ok found =>
    cases found with
    | none => rfl
    | some list => cases p.contains r.text <;> rfl

def carryOutOrClose (p : Phrase α) (r : OpeningRequest α) : SessionM σ α (Phrase α) :=
  tryCatch (p.carryOut r) fun e => do
    modify p.closeIn
    throw e

theorem exec_carryOutOrClose (p : Phrase α) (r : OpeningRequest α) (s : Session σ α) :
    (p.carryOutOrClose r).exec s =
      match (p.carryOut r).exec s with
      | (.ok p', s') => (.ok p', s')
      | (.error e, s') => (.error e, p.closeIn s') := by
  unfold carryOutOrClose
  rcases h : (p.carryOut r).exec s with ⟨outcome, s'⟩
  cases outcome with
  | ok p' => rw [SessionM.exec_tryCatch_of_ok h]
  | error e =>
    rw [SessionM.exec_tryCatch_of_error h]
    rfl

theorem carryOutOrClose_eq_error_iff {p : Phrase α} {r : OpeningRequest α} {s s' : Session σ α}
    {e : Failure} : (p.carryOutOrClose r).exec s = (.error e, s') ↔
      p.source.find s.opened r.opening = .error e ∧ s' = p.closeIn s := by
  rw [exec_carryOutOrClose, exec_carryOut]
  cases p.source.find s.opened r.opening with
  | error e' => simp [eq_comm]
  | ok found =>
    cases found with
    | none => simp
    | some list => cases p.contains r.text <;> simp

theorem carryOutAll_eq_foldlM (p : Phrase α) (requests : List (OpeningRequest α)) :
    (p.carryOutAll requests : SessionM σ α (Phrase α)) =
      requests.foldlM carryOutOrClose p := by
  induction requests generalizing p with
  | nil => rfl
  | cons r rest ih =>
    rw [carryOutAll, List.foldlM_cons]
    exact congrArg _ (funext ih)

theorem exec_carryOutAll_cons (p : Phrase α) (r : OpeningRequest α) (rest : List (OpeningRequest α))
    (s : Session σ α) :
    (p.carryOutAll (r :: rest)).exec s =
      match (p.carryOut r).exec s with
      | (.ok p', s') => (p'.carryOutAll rest).exec s'
      | (.error e, s') => (.error e, p.closeIn s') := by
  simp only [carryOutAll_eq_foldlM, List.foldlM_cons, SessionM.exec_bind, exec_carryOutOrClose]
  rcases (p.carryOut r).exec s with ⟨outcome, s'⟩
  cases outcome <;> rfl

theorem carryOutAll_invariant {P : Phrase α → Session σ α → Prop} {p p' : Phrase α}
    {s s' : Session σ α} {requests : List (OpeningRequest α)}
    (hstep : ∀ p r s p' s', P p s → (p.carryOut r).exec s = (.ok p', s') → P p' s')
    (h : P p s) (hrun : (p.carryOutAll requests).exec s = (.ok p', s')) : P p' s' := by
  induction requests generalizing p s with
  | nil =>
    obtain ⟨rfl, rfl⟩ : p = p' ∧ s = s' := by simpa [carryOutAll] using hrun
    exact h
  | cons r rest ih =>
    rw [exec_carryOutAll_cons] at hrun
    rcases hr : (p.carryOut r).exec s with ⟨outcome, s₁⟩
    rw [hr] at hrun
    cases outcome with
    | ok p₁ => exact ih (hstep p r s p₁ s₁ h hr) hrun
    | error e => cases hrun

theorem carryOutAll_eq_error_iff {p : Phrase α} {requests : List (OpeningRequest α)}
    {s s' : Session σ α} {e : Failure} : (p.carryOutAll requests).exec s = (.error e, s') ↔
      ∃ before r after p' s₁, requests = before ++ r :: after ∧
        (p.carryOutAll before).exec s = (.ok p', s₁) ∧
        p'.source.find s₁.opened r.opening = .error e ∧ s' = p'.closeIn s₁ := by
  simp only [carryOutAll_eq_foldlM, SessionM.exec_foldlM_eq_error_iff,
    carryOutOrClose_eq_error_iff]

end Phrase

structure OpenTerm (α : Type) where
  text : String
  weight : α
  list : PostingList

namespace OpenTerm

def found (answer : Opening → Option PostingList) (rs : List (OpeningRequest α)) :
    List (OpenTerm α) :=
  rs.filterMap fun r => (answer r.opening).map fun list => ⟨r.text, r.weight, list⟩

theorem found_cons (answer : Opening → Option PostingList) (r : OpeningRequest α)
    (rs : List (OpeningRequest α)) : found answer (r :: rs) = found answer [r] ++ found answer rs :=
  List.filterMap_append (l := [r])

def takeIn [Scalar α] (terms : List (OpenTerm α)) (o : OpenTerm α) : List (OpenTerm α) :=
  if terms.any (·.text == o.text) then
    terms.map fun t => if t.text == o.text then { t with weight := t.weight + o.weight } else t
  else terms ++ [o]

end OpenTerm

structure PhraseTerm.Shows (answer : Opening → Option PostingList) (s : Session σ α)
    (t : PhraseTerm α) (o : OpenTerm α) : Prop where
  text : t.text = o.text
  weight : t.weight = o.weight
  opening : answer t.opening = some o.list
  stream : s.opened[t.stream]? = some (.ofList o.list)

theorem PhraseTerm.Shows.keptIn {answer : Opening → Option PostingList} {s s' : Session σ α}
    {t : PhraseTerm α} {o : OpenTerm α} (h : t.Shows answer s o) (hs : s.KeptIn s') :
    t.Shows answer s' o :=
  ⟨h.text, h.weight, h.opening, hs.opened _ _ h.stream⟩

/-- A source that has one answer for each opening, whatever was opened before. -/
def Source.Answers (source : Source) (answer : Opening → Option PostingList) : Prop :=
  ∀ opened opening, source.find opened opening = .ok (answer opening)

theorem Index.answers_source (x : Index) : x.source.Answers x.find? :=
  fun _ _ => rfl

theorem Phrase.exec_reopen_of_answers {p : Phrase α} {answer : Opening → Option PostingList}
    (hsource : p.source.Answers answer) {t : PhraseTerm α} {list : PostingList}
    (h : answer t.opening = some list) (s : Session σ α) :
    (p.reopen t).exec s = (.ok s.opened.size, s.handOut list) := by
  unfold reopen
  rw [SessionM.exec_bind, SessionM.exec_openStream, hsource, h]
  rfl

def Phrase.Shows (answer : Opening → Option PostingList) (s : Session σ α) (p : Phrase α)
    (terms : List (OpenTerm α)) : Prop :=
  List.Forall₂ (PhraseTerm.Shows answer s) p.terms terms

namespace Phrase.Shows

variable {answer : Opening → Option PostingList} {s s' : Session σ α} {p : Phrase α}
  {terms : List (OpenTerm α)}

theorem keptIn (h : p.Shows answer s terms) (hs : s.KeptIn s') : p.Shows answer s' terms :=
  List.Forall₂.imp (fun _ _ ht => ht.keptIn hs) h

theorem contains_iff (h : p.Shows answer s terms) (text : String) :
    p.contains text = terms.any (·.text == text) := by
  obtain ⟨source, pterms⟩ := p
  simp only [Phrase.Shows, Phrase.contains] at *
  induction h with
  | nil => rfl
  | cons ht _ ih => rw [List.any_cons, List.any_cons, ih, ht.text]

theorem addWeight [Scalar α] (h : p.Shows answer s terms) (text : String) (weight : α) :
    (p.addWeight text weight).Shows answer s (terms.map fun t =>
      if t.text == text then { t with weight := t.weight + weight } else t) := by
  simp only [Phrase.Shows, Phrase.addWeight, List.forall₂_map_left_iff,
    List.forall₂_map_right_iff]
  refine List.Forall₂.imp (fun t o ht => ?_) h
  rw [ht.text]
  split
  · exact ⟨rfl, congrArg (· + weight) ht.weight, ht.opening, ht.stream⟩
  · exact ht

theorem push (h : p.Shows answer s terms) {t : PhraseTerm α} {o : OpenTerm α}
    (ht : t.Shows answer s o) : (p.push t).Shows answer s (terms ++ [o]) :=
  List.rel_append h (.cons ht .nil)

theorem texts_eq (h : p.Shows answer s terms) :
    p.terms.map PhraseTerm.text = terms.map OpenTerm.text :=
  map_eq_map_of_forall₂ h fun _ _ ht => ht.text

theorem exists_shown (h : p.Shows answer s terms) {t : PhraseTerm α} (ht : t ∈ p.terms) :
    ∃ o ∈ terms, t.Shows answer s o := by
  obtain ⟨i, hi, rfl⟩ := List.mem_iff_getElem.1 ht
  have hlength := List.Forall₂.length_eq h
  exact ⟨terms[i], List.getElem_mem _, List.Forall₂.get h hi (by omega)⟩

variable [Scalar α]

theorem carryOut (h : p.Shows answer s terms) (hsource : p.source.Answers answer)
    (r : OpeningRequest α) :
    ∃ p' s', (p.carryOut r).exec s = (.ok p', s') ∧ p'.source = p.source ∧
      p'.Shows answer s' ((OpenTerm.found answer [r]).foldl OpenTerm.takeIn terms) ∧
      s.KeptIn s' := by
  rw [Phrase.exec_carryOut, hsource]
  cases hfind : answer r.opening with
  | none =>
    have hkept := Session.KeptIn.report s (.termNotFound r.text)
    refine ⟨p, _, rfl, rfl, ?_, hkept⟩
    simpa [OpenTerm.found, hfind] using h.keptIn hkept
  | some list =>
    simp only [h.contains_iff, OpenTerm.found, List.filterMap_cons, List.filterMap_nil, hfind,
      Option.map_some, List.foldl_cons, List.foldl_nil, OpenTerm.takeIn]
    split
    · have hkept := Session.KeptIn.handOut_closeStream s list
      exact ⟨_, _, rfl, rfl, (h.keptIn hkept).addWeight r.text r.weight, hkept⟩
    · have hkept := Session.KeptIn.handOut s list
      refine ⟨_, _, rfl, rfl, (h.keptIn hkept).push ⟨rfl, rfl, hfind, ?_⟩, hkept⟩
      simp [Session.handOut]

theorem carryOutAll (h : p.Shows answer s terms) (hsource : p.source.Answers answer)
    (rs : List (OpeningRequest α)) :
    ∃ p' s', (p.carryOutAll rs).exec s = (.ok p', s') ∧ p'.source = p.source ∧
      p'.Shows answer s' ((OpenTerm.found answer rs).foldl OpenTerm.takeIn terms) ∧
      s.KeptIn s' := by
  induction rs generalizing p s terms with
  | nil => exact ⟨p, s, rfl, rfl, h, .refl s⟩
  | cons r rs ih =>
    obtain ⟨p₁, s₁, hrun, hsource₁, h₁, hkept₁⟩ := h.carryOut hsource r
    rw [← hsource₁] at hsource
    obtain ⟨p₂, s₂, hrest, hsource₂, h₂, hkept₂⟩ := ih h₁ hsource
    refine ⟨p₂, s₂, ?_, hsource₂.trans hsource₁, ?_, hkept₁.trans hkept₂⟩
    · rw [Phrase.exec_carryOutAll_cons, hrun]
      exact hrest
    · rwa [← List.foldl_append, ← OpenTerm.found_cons] at h₂

end Phrase.Shows

theorem Phrase.exec_ofQuery_of_answers [Scalar α] {source : Source}
    {answer : Opening → Option PostingList} (hsource : source.Answers answer) (q : Query α)
    (splitSynonyms : Bool) (s : Session σ α) :
    ∃ p s', (Phrase.ofQuery source q splitSynonyms).exec s = (.ok p, s') ∧ p.source = source ∧
      p.Shows answer s' ((OpenTerm.found answer (q.requests splitSynonyms)).foldl
        OpenTerm.takeIn []) ∧
      s.KeptIn s' := by
  have hempty : (Phrase.mk source []).Shows answer s [] := List.Forall₂.nil
  exact hempty.carryOutAll hsource (q.requests splitSynonyms)

namespace Index

variable [Scalar α]

def openNext (x : Index) (terms : List (OpenTerm α)) (r : OpeningRequest α) : List (OpenTerm α) :=
  match x.find? r.opening with
  | none => terms
  | some list =>
    if terms.any (·.text == r.text) then
      terms.map fun t => if t.text == r.text then { t with weight := t.weight + r.weight } else t
    else terms ++ [⟨r.text, r.weight, list⟩]

def openTerms (x : Index) (q : Query α) (splitSynonyms : Bool) : List (OpenTerm α) :=
  (q.requests splitSynonyms).foldl x.openNext []

theorem openTerms_eq_foldl_takeIn (x : Index) (q : Query α) (splitSynonyms : Bool) :
    x.openTerms q splitSynonyms =
      (OpenTerm.found x.find? (q.requests splitSynonyms)).foldl OpenTerm.takeIn [] := by
  unfold openTerms OpenTerm.found
  rw [List.foldl_filterMap]
  congr 1
  funext terms r
  unfold openNext
  cases x.find? r.opening <;> rfl

end Index

structure PhraseTerm.Opens (x : Index) (s : Session σ α) (t : PhraseTerm α) (o : OpenTerm α) :
    Prop where
  text : t.text = o.text
  weight : t.weight = o.weight
  opening : x.find? t.opening = some o.list
  stream : s.opened[t.stream]? = some (.ofList o.list)

/-- A phrase over an index has some opened terms, each with a stream that has not been moved. -/
structure Phrase.Opens (x : Index) (s : Session σ α) (p : Phrase α) (terms : List (OpenTerm α)) :
    Prop where
  source : p.source = x.source
  terms : List.Forall₂ (PhraseTerm.Opens x s) p.terms terms

namespace Phrase.Opens

variable {x : Index} {s s' : Session σ α} {p : Phrase α} {terms : List (OpenTerm α)}

theorem of_shows (hsource : p.source = x.source) (h : p.Shows x.find? s terms) :
    p.Opens x s terms :=
  ⟨hsource, List.Forall₂.imp (fun _ _ ht => ⟨ht.text, ht.weight, ht.opening, ht.stream⟩) h⟩

theorem keptIn (h : p.Opens x s terms) (hs : s.KeptIn s') : p.Opens x s' terms :=
  ⟨h.source, h.terms.imp fun _ _ ht =>
    ⟨ht.text, ht.weight, ht.opening, hs.opened _ _ ht.stream⟩⟩

theorem statistics_eq (h : p.Opens x s terms) : p.source.statistics = x.statistics := by
  rw [h.source]
  rfl

theorem size_eq (h : p.Opens x s terms) : p.size = terms.length :=
  h.terms.length_eq

theorem exists_of_mem (h : p.Opens x s terms) {o : OpenTerm α} (ho : o ∈ terms) :
    ∃ t ∈ p.terms, t.Opens x s o := by
  obtain ⟨i, hi, rfl⟩ := List.mem_iff_getElem.1 ho
  have hlength := h.terms.length_eq
  exact ⟨p.terms[i], List.getElem_mem _, h.terms.get (by omega) hi⟩

theorem exists_opened (h : p.Opens x s terms) {t : PhraseTerm α} (ht : t ∈ p.terms) :
    ∃ o ∈ terms, t.Opens x s o := by
  obtain ⟨i, hi, rfl⟩ := List.mem_iff_getElem.1 ht
  have hlength := h.terms.length_eq
  exact ⟨terms[i], List.getElem_mem _, h.terms.get hi (by omega)⟩

theorem texts_eq (h : p.Opens x s terms) :
    p.terms.map PhraseTerm.text = terms.map OpenTerm.text :=
  map_eq_map_of_forall₂ h.terms fun _ _ ht => ht.text

theorem weights_eq (h : p.Opens x s terms) :
    p.terms.map PhraseTerm.weight = terms.map OpenTerm.weight :=
  map_eq_map_of_forall₂ h.terms fun _ _ ht => ht.weight

theorem streams_eq (h : p.Opens x s terms) :
    p.streamsIn s = terms.map fun o => Stream.ofList o.list := by
  refine map_eq_map_of_forall₂ h.terms fun t _ ht => ?_
  simp [Session.stream, Array.getD_eq_getD_getElem?, ht.stream]

end Phrase.Opens

theorem Phrase.exec_ofQuery [Scalar α] (x : Index) (q : Query α) (splitSynonyms : Bool)
    (s : Session σ α) :
    ∃ p s', (Phrase.ofQuery x.source q splitSynonyms).exec s = (.ok p, s') ∧
      p.Opens x s' (x.openTerms q splitSynonyms) ∧ s.KeptIn s' := by
  obtain ⟨p, s', hrun, hsource, hshows, hkept⟩ :=
    exec_ofQuery_of_answers x.answers_source q splitSynonyms s
  rw [← x.openTerms_eq_foldl_takeIn] at hshows
  exact ⟨p, s', hrun, .of_shows hsource hshows, hkept⟩

theorem requests_ofTokens_two [Scalar α] :
    (Query.ofTokens none ["a", "b"] : Query α).filtered.requests true =
      [⟨"a", 1.0, .term "a"⟩, ⟨"b", 1.0, .term "b"⟩] := by
  simp [Query.ofTokens, Query.ofTerms, Query.filtered, Query.requests, Query.terms, Query.add,
    Roster.values, upsert, Query.empty, QueryTerm.requests, QueryTerm.isPseudo, TermKind.isWindow,
    QueryTerm.hasMarker, QueryTerm.startsMarker]

end ProximityRanking
