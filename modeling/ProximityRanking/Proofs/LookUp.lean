import ProximityRanking.Proofs.Merging
import ProximityRanking.Proofs.Opening
import ProximityRanking.Proofs.Rounding
import ProximityRanking.Proofs.Visiting
/-!
A pass over an index scores every document as if it looked each term up. Streams move forward only
and stay where they are when a row is passed over, yet each of them trails the documents to come:
it has left nothing that lies there.
-/
set_option autoImplicit false

namespace ProximityRanking

variable {σ α : Type}

namespace Pass

variable [Scalar α]

def slotsAt (p : Pass σ α) (lists : List PostingList) (docid : Int) : List (Slot α) :=
  (p.weights.zip lists).zipIdx.map fun ((weight, list), place) =>
    ⟨place, weight, (list.lookUp docid).map list.sightingOf⟩

def found (p : Pass σ α) (lists : List PostingList) (allZero : Bool) (row : Row α) :
    Option (List (Slot α)) :=
  if isPruned allZero row || decide ((p.slotsAt lists row.docid).countP (·.sighting.isSome) < 2)
  then none else some (p.slotsAt lists row.docid)

variable {p : Pass σ α} {streams : List Stream}

omit [Scalar α] in
theorem slots_advance {docid : Int} (h : ∀ s ∈ streams, s.Trails docid) :
    p.slots (streams.map (Stream.advance docid)) docid =
      p.slotsAt (streams.map Stream.list) docid := by
  unfold slots slotsAt
  rw [List.zip_map_right, List.zip_map_right, List.zipIdx_map, List.zipIdx_map, List.map_map,
    List.map_map]
  refine List.map_congr_left fun e he => ?_
  obtain ⟨⟨weight, s⟩, place⟩ := e
  have hs := h s (List.of_mem_zip (List.fst_mem_of_mem_zipIdx he)).2
  simp only [Function.comp_apply, Prod.map_apply, id_eq,
    Stream.sighting?_advance hs.ascends hs.started hs.behind]

theorem meet_eq_found (allZero : Bool) {row : Row α} (h : ∀ s ∈ streams, s.Trails row.docid) :
    (p.meet allZero row streams).2 = p.found (streams.map Stream.list) allZero row := by
  unfold meet found
  cases hpruned : isPruned allZero row with
  | true => rfl
  | false => simp [slots_advance h]

theorem map_list_meet (allZero : Bool) (row : Row α) (streams : List Stream) :
    (p.meet allZero row streams).1.map Stream.list = streams.map Stream.list := by
  unfold meet
  split
  · rfl
  · rw [List.map_map]
    exact List.map_congr_left fun s _ => Stream.advance_list row.docid s

theorem trails_meet (allZero : Bool) {row : Row α} (h : ∀ s ∈ streams, s.Trails row.docid) :
    ∀ s ∈ (p.meet allZero row streams).1, s.Trails row.docid := by
  unfold meet
  split
  · exact h
  · intro s hs
    obtain ⟨s₀, hs₀, rfl⟩ := List.mem_map.1 hs
    exact (h s₀ hs₀).advance (Int.le_refl _)

theorem plan_eq_map (allZero : Bool) {rows : List (Row α)}
    (hrows : rows.Pairwise fun a b => a.docid < b.docid)
    (h : ∀ row ∈ rows, ∀ s ∈ streams, s.Trails row.docid) :
    p.plan allZero rows streams =
      rows.map fun row => (row, p.found (streams.map Stream.list) allZero row) := by
  induction rows generalizing streams with
  | nil => rfl
  | cons row rest ih =>
    obtain ⟨hrow, hrest⟩ := List.pairwise_cons.1 hrows
    have htrails := h row (by simp)
    -- The next row lies behind this one, passed over or not, however far away it is.
    have hlater : ∀ row' ∈ rest, ∀ s ∈ (p.meet allZero row streams).1, s.Trails row'.docid := by
      intro row' hrow' s hs
      have hlt := hrow row' hrow'
      exact (trails_meet allZero htrails s hs).mono (by omega)
    simp only [plan, List.map_cons, ih hrest hlater, map_list_meet, meet_eq_found allZero htrails]

end Pass

structure Occurrence (α : Type) where
  place : Nat
  weight : α
  posting : Posting

def occurrenceOf (docid : Int) (e : OpenTerm α × Nat) : Option (Occurrence α) :=
  (e.1.list.lookUp docid).map fun posting => ⟨e.2, e.1.weight, posting⟩

def occurrences (terms : List (OpenTerm α)) (docid : Int) : List (Option (Occurrence α)) :=
  terms.zipIdx.map (occurrenceOf docid)

def bothOf (pair : Option (Occurrence α) × Option (Occurrence α)) :
    Option (Occurrence α × Occurrence α) :=
  pair.1.bind fun a => pair.2.map fun b => (a, b)

/-- The pairs of terms that both occur in a document. -/
def pairsIn (pairing : Pairing) (terms : List (OpenTerm α)) (docid : Int) :
    List (Occurrence α × Occurrence α) :=
  (pairing.pairs (occurrences terms docid)).filterMap bothOf

namespace Rescorer

variable [Scalar α]

def sumPairs (r : Rescorer σ α) (settings : Settings α) (pairing : Pairing)
    (pairs : List (Occurrence α × Occurrence α)) (total : α) : SessionM σ α α :=
  pairs.foldlM (fun total (a, b) => do
    let score ← r.scorePair pairing settings.window a.place (.ofPosting a.posting) b.place
      (.ofPosting b.posting)
    let weight := WeightRule.combine settings.rule a.weight b.weight
    pure (total + score * weight * settings.pairWeight pairing)) total

/-- A row keeps its weighted score if that is not positive, unless all scores are zero, and if fewer
than two terms occur in its document. -/
def keepsScore (settings : Settings α) (terms : List (OpenTerm α)) (allZero : Bool)
    (row : Row α) : Bool :=
  (!allZero && decide (row.score * settings.baseWeight ≤ 0.0)) ||
    decide ((occurrences terms row.docid).countP Option.isSome < 2)

/-- The score of a row, document by document. -/
def scoreByLookUp (r : Rescorer σ α) (settings : Settings α) (pairing : Pairing)
    (terms : List (OpenTerm α)) (allZero : Bool) (row : Row α) : SessionM σ α (Row α) :=
  if keepsScore settings terms allZero row then
    pure { row with score := row.score * settings.baseWeight }
  else do
    let x ← r.sumPairs settings pairing (pairsIn pairing terms row.docid) 0.0
    pure { row with score := row.score * settings.baseWeight + x }

end Rescorer

theorem adjacentPairs_map {β γ : Type} (f : β → γ) (l : List β) :
    adjacentPairs (l.map f) = (adjacentPairs l).map (Prod.map f f) := by
  induction l with
  | nil => rfl
  | cons x rest ih =>
    cases rest with
    | nil => rfl
    | cons y rest => exact congrArg ((f x, f y) :: ·) ih

theorem everyPair_map {β γ : Type} (f : β → γ) (l : List β) :
    everyPair (l.map f) = (everyPair l).map (Prod.map f f) := by
  induction l with
  | nil => rfl
  | cons x rest ih =>
    simp only [List.map_cons, everyPair, ih, List.map_append, List.map_map]
    rfl

theorem Pairing.pairs_map {β γ : Type} (pairing : Pairing) (f : β → γ) (l : List β) :
    pairing.pairs (l.map f) = (pairing.pairs l).map (Prod.map f f) := by
  cases pairing with
  | adjacent => exact adjacentPairs_map f l
  | every => exact everyPair_map f l

theorem mem_of_mem_adjacentPairs {β : Type} {l : List β} {pair : β × β}
    (h : pair ∈ adjacentPairs l) : pair.1 ∈ l ∧ pair.2 ∈ l := by
  induction l with
  | nil => cases h
  | cons x rest ih =>
    cases rest with
    | nil => cases h
    | cons y rest =>
      obtain rfl | hrest := List.mem_cons.1 h
      · simp
      · exact (ih hrest).imp (List.mem_cons_of_mem x) (List.mem_cons_of_mem x)

theorem mem_of_mem_everyPair {β : Type} {l : List β} {pair : β × β} (h : pair ∈ everyPair l) :
    pair.1 ∈ l ∧ pair.2 ∈ l := by
  induction l with
  | nil => cases h
  | cons x rest ih =>
    obtain hfirst | hrest := List.mem_append.1 h
    · obtain ⟨y, hy, rfl⟩ := List.mem_map.1 hfirst
      exact ⟨List.mem_cons_self, List.mem_cons_of_mem x hy⟩
    · exact (ih hrest).imp (List.mem_cons_of_mem x) (List.mem_cons_of_mem x)

theorem Pairing.mem_of_mem_pairs {β : Type} (pairing : Pairing) {l : List β} {pair : β × β}
    (h : pair ∈ pairing.pairs l) : pair.1 ∈ l ∧ pair.2 ∈ l := by
  cases pairing with
  | adjacent => exact mem_of_mem_adjacentPairs h
  | every => exact mem_of_mem_everyPair h

theorem forall₂_adjacentPairs {β γ : Type} {R : β → γ → Prop} {l : List β} {l' : List γ}
    (h : List.Forall₂ R l l') :
    List.Forall₂ (fun pair pair' => R pair.1 pair'.1 ∧ R pair.2 pair'.2) (adjacentPairs l)
      (adjacentPairs l') := by
  induction h with
  | nil => exact .nil
  | cons hfirst hrest ih =>
    cases hrest with
    | nil => exact .nil
    | cons hsecond _ => exact .cons ⟨hfirst, hsecond⟩ ih

theorem forall₂_everyPair {β γ : Type} {R : β → γ → Prop} {l : List β} {l' : List γ}
    (h : List.Forall₂ R l l') :
    List.Forall₂ (fun pair pair' => R pair.1 pair'.1 ∧ R pair.2 pair'.2) (everyPair l)
      (everyPair l') := by
  induction h with
  | nil => exact .nil
  | cons hfirst hrest ih =>
    refine List.rel_append ?_ ih
    rw [List.forall₂_map_left_iff, List.forall₂_map_right_iff]
    exact hrest.imp fun _ _ h => ⟨hfirst, h⟩

theorem Pairing.forall₂_pairs {β γ : Type} (pairing : Pairing) {R : β → γ → Prop} {l : List β}
    {l' : List γ} (h : List.Forall₂ R l l') :
    List.Forall₂ (fun pair pair' => R pair.1 pair'.1 ∧ R pair.2 pair'.2) (pairing.pairs l)
      (pairing.pairs l') := by
  cases pairing with
  | adjacent => exact forall₂_adjacentPairs h
  | every => exact forall₂_everyPair h

namespace Pass

def slotIn (docid : Int) (e : OpenTerm α × Nat) : Slot α :=
  ⟨e.2, e.1.weight, (e.1.list.lookUp docid).map e.1.list.sightingOf⟩

theorem slotsAt_eq_map {p : Pass σ α} {terms : List (OpenTerm α)}
    (hweights : p.weights = terms.map OpenTerm.weight) (docid : Int) :
    p.slotsAt (terms.map OpenTerm.list) docid = terms.zipIdx.map (slotIn docid) := by
  unfold slotsAt
  rw [hweights, List.zip_map', List.zipIdx_map, List.map_map]
  rfl

def slotOf (docid : Int) (e : OpenTerm α × Nat) : Slot α :=
  ⟨e.2, e.1.weight, (e.1.list.lookUp docid).map Sighting.ofPosting⟩

theorem slotsAt_eq {p : Pass σ α} {terms : List (OpenTerm α)}
    (hweights : p.weights = terms.map OpenTerm.weight)
    (hpositional : ∀ t ∈ terms, t.list.positional = true) (docid : Int) :
    p.slotsAt (terms.map OpenTerm.list) docid = terms.zipIdx.map (slotOf docid) := by
  rw [slotsAt_eq_map hweights]
  refine List.map_congr_left fun e he => ?_
  obtain ⟨t, place⟩ := e
  have hsighting : t.list.sightingOf = Sighting.ofPosting := funext fun q =>
    PostingList.sightingOf_eq_ofPosting (hpositional t (List.fst_mem_of_mem_zipIdx he)) q
  simp only [hsighting, slotIn, slotOf]

theorem countP_slotsAt {p : Pass σ α} {terms : List (OpenTerm α)}
    (hweights : p.weights = terms.map OpenTerm.weight) (docid : Int) :
    (p.slotsAt (terms.map OpenTerm.list) docid).countP (·.sighting.isSome) =
      (occurrences terms docid).countP Option.isSome := by
  rw [slotsAt_eq_map hweights, occurrences, List.countP_map, List.countP_map]
  congr 1
  funext e
  simp [slotIn, occurrenceOf]

variable [Scalar α]

theorem addPairs_eq_sumPairs (p : Pass σ α) (docid : Int)
    (pairs : List ((OpenTerm α × Nat) × (OpenTerm α × Nat))) (total : α) :
    p.addPairs (pairs.map (Prod.map (slotOf docid) (slotOf docid))) total =
      p.rescorer.sumPairs p.settings p.pairing
        ((pairs.map (Prod.map (occurrenceOf docid) (occurrenceOf docid))).filterMap bothOf)
        total := by
  induction pairs generalizing total with
  | nil => rfl
  | cons pair rest ih =>
    obtain ⟨⟨t, i⟩, u, j⟩ := pair
    rw [List.map_cons, addPairs.eq_def]
    simp only [Prod.map_apply, slotOf, List.map_cons, List.filterMap_cons, occurrenceOf, bothOf]
    cases ht : t.list.lookUp docid with
    | none => exact ih total
    | some q =>
      cases hu : u.list.lookUp docid with
      | none => exact ih total
      | some q' =>
        simp only [Option.map_some, Option.bind_some, Rescorer.sumPairs, List.foldlM_cons,
          bind_assoc, pure_bind]
        exact bind_congr fun score => ih _

theorem boost_slotsAt {p : Pass σ α} {terms : List (OpenTerm α)}
    (hweights : p.weights = terms.map OpenTerm.weight)
    (hpositional : ∀ t ∈ terms, t.list.positional = true) (docid : Int) :
    p.boost (p.slotsAt (terms.map OpenTerm.list) docid) =
      p.rescorer.sumPairs p.settings p.pairing (pairsIn p.pairing terms docid) 0.0 := by
  unfold boost pairsIn occurrences
  rw [slotsAt_eq hweights hpositional, Pairing.pairs_map, Pairing.pairs_map, addPairs_eq_sumPairs]

def weigh (p : Pass σ α) (row : Row α) : Row α :=
  { row with score := row.score * p.settings.baseWeight }

def stepAt (p : Pass σ α) (lists : List PostingList) (allZero : Bool) (row : Row α) : Step α :=
  (p.weigh row, p.found lists allZero (p.weigh row))

def scoreRow (p : Pass σ α) (lists : List PostingList) (allZero : Bool) (row : Row α) :
    SessionM σ α (Row α) :=
  p.carryOut (p.stepAt lists allZero row)

theorem mapM_stepAt (p : Pass σ α) (lists : List PostingList) (allZero : Bool)
    (rows : List (Row α)) :
    (rows.map (p.stepAt lists allZero)).mapM p.carryOut = rows.mapM (p.scoreRow lists allZero) :=
  List.mapM_map

theorem found_isSome {p : Pass σ α} {terms : List (OpenTerm α)}
    (hweights : p.weights = terms.map OpenTerm.weight) (allZero : Bool) (row : Row α) :
    (p.stepAt (terms.map OpenTerm.list) allZero row).2.isSome =
      !Rescorer.keepsScore p.settings terms allZero row := by
  have hcount := countP_slotsAt hweights row.docid
  unfold stepAt found Rescorer.keepsScore isPruned weigh
  simp only [hcount]
  generalize ((!allZero && decide (row.score * p.settings.baseWeight ≤ 0.0)) ||
    decide ((occurrences terms row.docid).countP Option.isSome < 2)) = keeps
  cases keeps <;> rfl

theorem entered_stepAt {p : Pass σ α} {terms : List (OpenTerm α)}
    (hweights : p.weights = terms.map OpenTerm.weight) (allZero : Bool) (rows : List (Row α)) :
    entered (rows.map (p.stepAt (terms.map OpenTerm.list) allZero)) =
      rows.countP (!Rescorer.keepsScore p.settings terms allZero ·) := by
  rw [entered, List.countP_map]
  exact congrArg (List.countP · _) (funext fun row => found_isSome hweights allZero row)

theorem scoreRow_eq_boost {p : Pass σ α} {terms : List (OpenTerm α)}
    (hweights : p.weights = terms.map OpenTerm.weight) (allZero : Bool) (row : Row α) :
    p.scoreRow (terms.map OpenTerm.list) allZero row =
      if Rescorer.keepsScore p.settings terms allZero row then pure (p.weigh row)
      else p.boost (p.slotsAt (terms.map OpenTerm.list) row.docid) >>= fun x =>
        pure { row with score := row.score * p.settings.baseWeight + x } := by
  have hcount := countP_slotsAt hweights row.docid
  unfold scoreRow stepAt found Rescorer.keepsScore isPruned weigh
  simp only [hcount]
  split <;> rfl

theorem scoreRow_eq {p : Pass σ α} {terms : List (OpenTerm α)}
    (hweights : p.weights = terms.map OpenTerm.weight)
    (hpositional : ∀ t ∈ terms, t.list.positional = true) (allZero : Bool) :
    p.scoreRow (terms.map OpenTerm.list) allZero =
      p.rescorer.scoreByLookUp p.settings p.pairing terms allZero := by
  funext row
  rw [scoreRow_eq_boost hweights, boost_slotsAt hweights hpositional]
  rfl

end Pass

theorem Statistics.exists_averageWindows? {statistics : Statistics} {window : Int}
    (h1 : 1 ≤ window) (hwindow : window < 2 ^ 63)
    (htokens : statistics.tokens ≤ statistics.documents * 2 ^ 63) :
    ∃ average : Float, statistics.averageWindows? window = some average := by
  unfold averageWindows?
  split
  · exact ⟨_, rfl⟩
  · rename_i hdocuments
    have hlow : (0 : Int) ≤ statistics.documents * (window - 1) :=
      Int.mul_nonneg (by omega) (by omega)
    have hhigh : statistics.documents * (window - 1) ≤ statistics.documents * (2 ^ 63 : Int) :=
      Int.mul_le_mul_of_nonneg_left (by omega) (by omega)
    have hfinite : Scalar.isFinite (Scalar.ofRatio
        ((statistics.tokens : Int) - statistics.documents * (window - 1))
        statistics.documents : Float) = true :=
      Binary64.isFinite_ofRatio (by omega)
    simp only [Scalar.ratio?, hfinite, if_true]
    exact ⟨_, rfl⟩

theorem Phrase.keptIn_announced (phrase : Phrase α) (s : Session σ α) :
    s.KeptIn (phrase.announced s) := by
  unfold announced
  induction phrase.terms generalizing s with
  | nil => exact .refl s
  | cons t terms ih => exact (Session.KeptIn.report s (.phraseTerm t.text)).trans (ih _)

theorem Phrase.Opens.lists {documents : List (List String)} {ids : List String}
    {positional : Bool} {phrase : Phrase α} {s : Session σ α} {terms : List (OpenTerm α)}
    (h : phrase.Opens (Index.ofDocuments documents ids positional) s terms)
    (hdocuments : documents.length < 2 ^ 63) :
    ∀ t ∈ terms, t.list.Ascends ∧ t.list.positional = positional := by
  intro t ht
  obtain ⟨t', -, ht'⟩ := h.exists_of_mem ht
  exact ⟨Index.ascends_of_find? hdocuments ht'.opening, (Index.find?_ofDocuments ht'.opening).2⟩

theorem Phrase.Opens.ready [Scalar α] {x : Index} {phrase : Phrase α} {s s' : Session σ α}
    {terms : List (OpenTerm α)} (h : phrase.Opens x s terms) {p : Pass σ α} {average : α}
    (haverage : x.statistics.averageWindows? p.settings.window = some average)
    (hprepare : (p.rescorer.function.prepare (p.preparation phrase average)).exec s =
      (.ok (), s')) :
    (p.ready phrase).exec s = (.ok (terms.map fun t => (Stream.ofList t.list).step), s') := by
  rw [← h.statistics_eq] at haverage
  rw [Pass.ready_of_prepare_ok haverage hprepare, h.streams_eq, List.map_map]
  rfl

namespace Rescorer

theorem keptIn_begun (r : Rescorer σ α) (settings : Settings α) (s : Session σ α) :
    s.KeptIn (r.begun settings s) := by
  unfold begun
  split
  · exact (Session.KeptIn.report s _).trans (Session.KeptIn.report _ _)
  · exact Session.KeptIn.report s _

variable [Scalar α] {terms : List (OpenTerm α)}

theorem exists_opened (r : Rescorer σ α) (settings : Settings α) (x : Index) (query : Query α)
    (s : Session σ α) :
    ∃ phrase s₁, (Phrase.ofQuery x.source query.filtered settings.splitSynonyms).exec
        (r.begun settings s) = (.ok phrase, s₁) ∧
      phrase.Opens x (phrase.announced s₁)
        (x.openTerms query.filtered settings.splitSynonyms) ∧
      s.KeptIn (phrase.announced s₁) := by
  obtain ⟨phrase, s₁, hopened, hopens, hkept⟩ := Phrase.exec_ofQuery x query.filtered
    settings.splitSynonyms (r.begun settings s)
  have hannounced := phrase.keptIn_announced s₁
  exact ⟨phrase, s₁, hopened, hopens.keptIn hannounced,
    ((r.keptIn_begun settings s).trans hkept).trans hannounced⟩

theorem exists_pass {r : Rescorer σ α} {settings : Settings α} {pairing : Pairing}
    (hmode : settings.mode.pairing? = some pairing) {documents : List (List String)}
    (hdocuments : documents.length < 2 ^ 63) {ids : List String} {positional : Bool}
    {query : Query α}
    (hterms : (Index.ofDocuments documents ids positional).openTerms query.filtered
      settings.splitSynonyms = terms) (hsize : 2 ≤ terms.length) {average : α}
    (haverage : (Index.ofDocuments documents ids positional).statistics.averageWindows?
      settings.window = some average) {Ready : Session σ α → Prop}
    (hprepare : ∀ (phrase : Phrase α) s,
      phrase.Opens (Index.ofDocuments documents ids positional) s terms →
      ∃ s', (r.function.prepare
        ((r.passOver settings pairing phrase).preparation phrase average)).exec s = (.ok (), s') ∧
        Ready s') (s : Session σ α) :
    ∃ phrase s₀ s₁, phrase.terms.map PhraseTerm.weight = terms.map OpenTerm.weight ∧
      (∀ t ∈ terms, t.list.Ascends ∧ t.list.positional = positional) ∧
      ((r.passOver settings pairing phrase).ready phrase).exec s₀ =
        (.ok (terms.map fun t => (Stream.ofList t.list).step), s₁) ∧ Ready s₁ ∧
      ∀ {results results' outcome s₂}, (r.passOver settings pairing phrase).run phrase results s₀ =
        ((outcome, results'), s₂) →
        (r.run (.ok settings) (Index.ofDocuments documents ids positional).source query results
          s).1 = (outcome, results') := by
  obtain ⟨phrase, s₁, hopened, hopens, -⟩ :=
    r.exists_opened settings (Index.ofDocuments documents ids positional) query s
  rw [hterms] at hopens
  obtain ⟨s₂, hprepared, hs₂⟩ := hprepare phrase _ hopens
  have hready := hopens.ready (p := r.passOver settings pairing phrase) haverage hprepared
  have hsize' : 2 ≤ phrase.size := by rwa [hopens.size_eq]
  exact ⟨phrase, _, s₂, hopens.weights_eq, hopens.lists hdocuments, hready, hs₂,
    fun hrun => run_of_open_ok hopened hsize' hmode hrun⟩

/-- A counter and a scoring function that do not fail on what a run asks of them: the preparation
leaves a session that is ready, and so does every pair that is scored in one. -/
structure Unfailing (r : Rescorer σ α) (settings : Settings α) (pairing : Pairing) (x : Index)
    (terms : List (OpenTerm α)) (results : ResultSet α) (Ready : Session σ α → Prop) : Prop where
  prepare : ∀ (phrase : Phrase α) (average : α) s, phrase.Opens x s terms →
    x.statistics.averageWindows? settings.window = some average →
    ∃ s', (r.function.prepare
      ((r.passOver settings pairing phrase).preparation phrase average)).exec s = (.ok (), s') ∧
      Ready s'
  scorePair : ∀ row ∈ results.rows, ∀ a b, (a, b) ∈ pairsIn pairing terms row.docid →
    ∀ s, Ready s → ∃ score s', (r.scorePair pairing settings.window a.place (.ofPosting a.posting)
      b.place (.ofPosting b.posting)).exec s = (.ok score, s') ∧ Ready s'

namespace Unfailing

variable {r : Rescorer σ α} {settings : Settings α} {pairing : Pairing} {x : Index}
  {results : ResultSet α} {Ready : Session σ α → Prop}

theorem sumPairs (h : r.Unfailing settings pairing x terms results Ready) {row : Row α}
    (hrow : row ∈ results.rows) (total : α) {s : Session σ α} (hs : Ready s) :
    ∃ sum s', (r.sumPairs settings pairing (pairsIn pairing terms row.docid) total).exec s =
      (.ok sum, s') ∧ Ready s' := by
  refine SessionM.exec_foldlM_of_forall (fun ⟨a, b⟩ hpair total s hs => ?_) hs total
  obtain ⟨score, s', hscore, hs'⟩ := h.scorePair row hrow a b hpair s hs
  exact ⟨_, s', by rw [SessionM.exec_bind_of_ok hscore]; rfl, hs'⟩

theorem scoreByLookUp (h : r.Unfailing settings pairing x terms results Ready) (allZero : Bool)
    {row : Row α} (hrow : row ∈ results.rows) {s : Session σ α} (hs : Ready s) :
    ∃ row' s', (r.scoreByLookUp settings pairing terms allZero row).exec s = (.ok row', s') ∧
      Ready s' := by
  unfold Rescorer.scoreByLookUp
  split
  · exact ⟨_, s, rfl, hs⟩
  · obtain ⟨sum, s', hsum, hs'⟩ := h.sumPairs hrow 0.0 hs
    exact ⟨_, s', by rw [SessionM.exec_bind_of_ok hsum]; rfl, hs'⟩

end Unfailing

section Plan

variable {p : Pass σ α} {phrase : Phrase α} {results : ResultSet α} {s s₁ s₂ s₃ : Session σ α}
  (hweights : p.weights = terms.map OpenTerm.weight)
  (hascends : ∀ t ∈ terms, t.list.Ascends)

include hascends in
theorem plan_weighted (results : ResultSet α) :
    p.plan (Pass.allZero results) (p.weighted results).rows
        (terms.map fun t => (Stream.ofList t.list).step) =
      results.sortByDocid.rows.map
        (p.stepAt (terms.map OpenTerm.list) (Pass.allZero results)) := by
  have hrows : (p.weighted results).rows = results.sortByDocid.rows.map p.weigh := rfl
  have hascending : (p.weighted results).rows.Pairwise fun a b => a.docid < b.docid :=
    List.pairwise_map.2 results.pairwise_sortByDocid
  have htrails : ∀ row ∈ (p.weighted results).rows,
      ∀ s ∈ terms.map fun t => (Stream.ofList t.list).step, s.Trails row.docid := by
    intro row _ s hs
    obtain ⟨t, ht, rfl⟩ := List.mem_map.1 hs
    exact Stream.Trails.step_ofList (hascends t ht) row.docid
  have hlist : (terms.map fun t => (Stream.ofList t.list).step).map Stream.list =
      terms.map OpenTerm.list := by
    rw [List.map_map]
    exact List.map_congr_left fun t _ => Stream.step_list (.ofList t.list)
  rw [Pass.plan_eq_map _ hascending htrails, hlist, hrows, List.map_map]
  rfl

variable (hready : (p.ready phrase).exec s =
    (.ok (terms.map fun t => (Stream.ofList t.list).step), s₁))

include hweights hascends hready

theorem run_of_scoreRow_ok {rows : List (Row α)}
    (hrows : (results.sortByDocid.rows.mapM
      (p.scoreRow (terms.map OpenTerm.list) (Pass.allZero results))).exec s₁ = (.ok rows, s₂)) :
    ∃ results', p.run phrase results s =
        ((⟨.applied, results.sortByDocid.rows.countP
          (!keepsScore p.settings terms (Pass.allZero results) ·), none⟩, results'), s₂) ∧
      results'.rows = rows ∧ results'.Rescores results := by
  have hplan := plan_weighted (p := p) hascends results
  rw [← Pass.mapM_stepAt, ← hplan] at hrows
  obtain ⟨progress, hvisit, hrescored, haltered, hfailure⟩ := Pass.visit_of_ok hrows
  obtain ⟨results', hrun, hresults, hrescores⟩ := Pass.run_of_ready_ok hready hvisit
  rw [haltered, hfailure, hplan, Pass.entered_stepAt hweights] at hrun
  exact ⟨results', hrun, hresults.trans hrescored, hrescores⟩

theorem run_of_scoreRow_error {before after scored : List (Row α)} {row : Row α} {e : Failure}
    (hsorted : results.sortByDocid.rows = before ++ row :: after)
    (hbefore : (before.mapM
      (p.scoreRow (terms.map OpenTerm.list) (Pass.allZero results))).exec s₁ = (.ok scored, s₂))
    (hfails : (p.scoreRow (terms.map OpenTerm.list) (Pass.allZero results) row).exec s₂ =
      (.error e, s₃)) :
    ∃ results', p.run phrase results s =
        ((⟨.cutShort, before.countP (!keepsScore p.settings terms (Pass.allZero results) ·) + 1,
          some e⟩, results'), s₃) ∧
      results'.rows = scored ++ (row :: after).map p.weigh ∧ results'.Rescores results := by
  obtain ⟨slots, hslots, hboost⟩ := Pass.boost_of_carryOut_error hfails
  have hstep : p.stepAt (terms.map OpenTerm.list) (Pass.allZero results) row =
      (p.weigh row, some slots) := Prod.ext rfl hslots
  have hplan := plan_weighted (p := p) hascends results
  rw [hsorted, List.map_append, List.map_cons, hstep] at hplan
  rw [← Pass.mapM_stepAt] at hbefore
  obtain ⟨progress, hvisit, hrescored, haltered, hfailure⟩ :=
    Pass.visit_of_error hplan hbefore hboost
  obtain ⟨results', hrun, hresults, hrescores⟩ := Pass.run_of_ready_ok hready hvisit
  rw [haltered, hfailure, Pass.entered_stepAt hweights] at hrun
  refine ⟨results', hrun, ?_, hrescores⟩
  rw [hresults, hrescored, List.map_map]
  rfl

end Plan

theorem run_of_mapM_ok {p : Pass σ α} {streams : List Stream}
    (hweights : p.weights = terms.map OpenTerm.weight)
    (hlists : ∀ t ∈ terms, t.list.Ascends ∧ t.list.positional = true)
    (hstreams : streams = terms.map fun t => (Stream.ofList t.list).step) {phrase : Phrase α}
    {results : ResultSet α} {s s₁ s₂ : Session σ α} {rows : List (Row α)}
    (hready : (p.ready phrase).exec s = (.ok streams, s₁))
    (hrows : (results.sortByDocid.rows.mapM
      (p.rescorer.scoreByLookUp p.settings p.pairing terms (Pass.allZero results))).exec s₁ =
        (.ok rows, s₂)) :
    ∃ results', p.run phrase results s =
        ((⟨.applied, results.sortByDocid.rows.countP
          (!keepsScore p.settings terms (Pass.allZero results) ·), none⟩, results'), s₂) ∧
      results'.rows = rows ∧ results'.Rescores results := by
  rw [← Pass.scoreRow_eq hweights fun t ht => (hlists t ht).2] at hrows
  rw [hstreams] at hready
  exact run_of_scoreRow_ok hweights (fun t ht => (hlists t ht).1) hready hrows

end Rescorer

def Rescorer.one : Rescorer Unit Float where
  function := ⟨"one", fun _ => pure (), fun _ _ => pure 1.0⟩
  counter := ⟨fun _ _ => .ok 1⟩

def twoWords : List (OpenTerm Float) :=
  [⟨"a", 1.0, ⟨some "a", #[⟨0, 2, [0]⟩], true⟩⟩, ⟨"b", 1.0, ⟨some "b", #[⟨0, 2, [1]⟩], true⟩⟩]

theorem openTerms_two [Scalar α] (positional : Bool) :
    (Index.ofDocuments [["a", "b"]] [] positional).openTerms
      (Query.ofTokens none ["a", "b"] : Query α).filtered true =
        [⟨"a", 1.0, ⟨some "a", #[⟨0, 2, [0]⟩], positional⟩⟩,
          ⟨"b", 1.0, ⟨some "b", #[⟨0, 2, [1]⟩], positional⟩⟩] := by
  have ha : Index.postingsIn "a" [["a", "b"]] = [⟨0, 2, [0]⟩] := by decide
  have hb : Index.postingsIn "b" [["a", "b"]] = [⟨0, 2, [1]⟩] := by decide
  simp [Index.openTerms, requests_ofTokens_two, Index.openNext, Index.find?,
    Index.postings?_ofDocuments, ha, hb]

theorem openTerms_twoWords :
    (Index.ofDocuments [["a", "b"]] [] true).openTerms
      (Query.ofTokens none ["a", "b"] : Query Float).filtered true = twoWords :=
  openTerms_two true

end ProximityRanking
