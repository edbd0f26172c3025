import Mathlib.Data.List.Induction
import ProximityRanking.Proofs.Closing
import ProximityRanking.Proofs.Lossless
/-!
A phrase gathers what its query asks for. Requests that find nothing are left out, and those of one
text are one term: its place is that of the first of them, its postings are those of the first, and
its weight is the sum of all weights from left to right (`OpenTerm.gathered`). Any term can be
opened anew as it was opened first.
-/
set_option autoImplicit false

namespace ProximityRanking

variable {σ α : Type} [Scalar α]

namespace OpenTerm

def addUp (first : α) (rest : List (OpenTerm α)) : α :=
  rest.foldl (fun weight o => weight + o.weight) first

def gathered (os : List (OpenTerm α)) (text : String) : Option (OpenTerm α) :=
  match os.filter (·.text == text) with
  | [] => none
  | first :: rest => some { first with weight := addUp first.weight rest }

theorem gathered_eq_some_iff {os : List (OpenTerm α)} {text : String} {o : OpenTerm α} :
    gathered os text = some o ↔ ∃ first rest, os.filter (·.text == text) = first :: rest ∧
      o = { first with weight := addUp first.weight rest } := by
  unfold gathered
  cases os.filter (·.text == text) with
  | nil => simp
  | cons first rest => simp [eq_comm]

theorem text_of_gathered {os : List (OpenTerm α)} {text : String} {o : OpenTerm α}
    (h : gathered os text = some o) : o.text = text := by
  obtain ⟨first, rest, hfilter, rfl⟩ := gathered_eq_some_iff.1 h
  have hfirst : first ∈ os.filter (·.text == text) := by simp [hfilter]
  simpa using (List.mem_filter.1 hfirst).2

theorem gathered_isSome {os : List (OpenTerm α)} {text : String}
    (h : text ∈ os.map OpenTerm.text) : (gathered os text).isSome = true := by
  obtain ⟨o, ho, rfl⟩ := List.mem_map.1 h
  unfold gathered
  cases hfilter : os.filter (·.text == o.text) with
  | nil =>
    have := List.filter_eq_nil_iff.1 hfilter o ho
    simp at this
  | cons first rest => rfl

theorem gathered_eq_none {os : List (OpenTerm α)} {text : String}
    (h : text ∉ os.map OpenTerm.text) : gathered os text = none := by
  have hfilter : os.filter (·.text == text) = [] := by
    refine List.filter_eq_nil_iff.2 fun o ho htext => h ?_
    exact beq_iff_eq.1 htext ▸ List.mem_map_of_mem ho
  rw [gathered, hfilter]

theorem gathered_append_of_ne {os : List (OpenTerm α)} {o : OpenTerm α} {text : String}
    (h : o.text ≠ text) : gathered (os ++ [o]) text = gathered os text := by
  unfold gathered
  rw [List.filter_append]
  simp [h]

theorem gathered_append_self (os : List (OpenTerm α)) (o : OpenTerm α) :
    gathered (os ++ [o]) o.text =
      some ((gathered os o.text).elim o fun t => { t with weight := t.weight + o.weight }) := by
  unfold gathered
  rw [List.filter_append]
  cases os.filter (·.text == o.text) with
  | nil => simp [addUp]
  | cons first rest => simp [addUp]

/-- The terms gathered text by text, in the order of the first ones. -/
def gather (os : List (OpenTerm α)) : List (OpenTerm α) :=
  (os.map OpenTerm.text).eraseDups.filterMap (gathered os)

theorem map_text_filterMap_gathered {os : List (OpenTerm α)} {texts : List String}
    (h : ∀ text ∈ texts, text ∈ os.map OpenTerm.text) :
    (texts.filterMap (gathered os)).map OpenTerm.text = texts := by
  induction texts with
  | nil => rfl
  | cons text texts ih =>
    obtain ⟨htext, htexts⟩ := List.forall_mem_cons.1 h
    obtain ⟨o, ho⟩ := Option.isSome_iff_exists.1 (gathered_isSome htext)
    rw [List.filterMap_cons_some ho, List.map_cons, ih htexts, text_of_gathered ho]

theorem map_text_gather (os : List (OpenTerm α)) :
    (gather os).map OpenTerm.text = (os.map OpenTerm.text).eraseDups :=
  map_text_filterMap_gathered fun _ => List.mem_eraseDups.1

theorem any_text_gather (os : List (OpenTerm α)) (text : String) :
    (gather os).any (·.text == text) = true ↔ text ∈ os.map OpenTerm.text := by
  rw [← List.mem_eraseDups, ← map_text_gather]
  simp

theorem gather_append_of_mem {os : List (OpenTerm α)} {o : OpenTerm α}
    (h : o.text ∈ os.map OpenTerm.text) :
    gather (os ++ [o]) = (gather os).map fun t =>
      if t.text == o.text then { t with weight := t.weight + o.weight } else t := by
  have htexts : ((os ++ [o]).map OpenTerm.text).eraseDups = (os.map OpenTerm.text).eraseDups := by
    rw [List.map_append, List.map_cons, List.map_nil, eraseDups_append_cons h, List.append_nil]
  unfold gather
  rw [htexts, List.map_filterMap]
  refine List.filterMap_congr fun text htext => ?_
  obtain ⟨t, ht⟩ := Option.isSome_iff_exists.1 (gathered_isSome (List.mem_eraseDups.1 htext))
  obtain rfl := text_of_gathered ht
  by_cases heq : t.text = o.text
  · rw [heq, gathered_append_self, ← heq, ht]
    simp [heq]
  · rw [gathered_append_of_ne (Ne.symm heq), ht]
    simp [heq]

theorem gather_append_of_not_mem {os : List (OpenTerm α)} {o : OpenTerm α}
    (h : o.text ∉ os.map OpenTerm.text) : gather (os ++ [o]) = gather os ++ [o] := by
  have htexts : ((os ++ [o]).map OpenTerm.text).eraseDups =
      (os.map OpenTerm.text).eraseDups ++ [o.text] := by
    have hfilter : [o.text].removeAll (os.map OpenTerm.text) = [o.text] := by
      simpa [List.removeAll] using h
    rw [List.map_append, List.map_cons, List.map_nil, List.eraseDups_append, hfilter]
    rfl
  have hself : gathered (os ++ [o]) o.text = some o := by
    rw [gathered_append_self, gathered_eq_none h]
    rfl
  unfold gather
  rw [htexts, List.filterMap_append]
  congr 1
  · refine List.filterMap_congr fun text htext => gathered_append_of_ne ?_
    rintro rfl
    exact h (List.mem_eraseDups.1 htext)
  · rw [List.filterMap_cons_some hself, List.filterMap_nil]

theorem foldl_takeIn (os : List (OpenTerm α)) : os.foldl takeIn [] = gather os := by
  induction os using List.reverseRecOn with
  | nil => rfl
  | append_singleton os o ih =>
    rw [List.foldl_append, ih, List.foldl_cons, List.foldl_nil, takeIn]
    by_cases h : o.text ∈ os.map OpenTerm.text
    · rw [if_pos ((any_text_gather os o.text).2 h), gather_append_of_mem h]
    · rw [if_neg fun hany => h ((any_text_gather os o.text).1 hany), gather_append_of_not_mem h]

end OpenTerm

namespace Phrase

/-- Opening a query gathers the entries that are found for its requests: there is one term for each
text, in the order of the first entries, with the sum of their weights from left to right and a
stream before the postings of the first. Whatever is done to that stream, the term can be opened
anew, and the walk through the new stream is that through the old one from its start. -/
theorem exec_ofQuery_gathers {source : Source} {answer : Opening → Option PostingList}
    (hsource : source.Answers answer) (q : Query α) (splitSynonyms : Bool) (s : Session σ α) :
    ∃ p s', (Phrase.ofQuery source q splitSynonyms).exec s = (.ok p, s') ∧
      p.terms.map PhraseTerm.text =
        ((OpenTerm.found answer (q.requests splitSynonyms)).map OpenTerm.text).eraseDups ∧
      (p.terms.map PhraseTerm.weight).length = p.size ∧ (p.streamsIn s').length = p.size ∧
      ∀ t ∈ p.terms, ∃ first rest,
        (OpenTerm.found answer (q.requests splitSynonyms)).filter (·.text == t.text) =
          first :: rest ∧
        t.weight = OpenTerm.addUp first.weight rest ∧
        s'.opened[t.stream]? = some (.ofList first.list) ∧
        ∀ s₁ : Session σ α, ∃ s₂, (p.reopen t).exec s₁ = (.ok s₁.opened.size, s₂) ∧
          s₂.opened = s₁.opened.push (.ofList first.list) ∧
          (s₂.stream s₁.opened.size).walk = (s'.stream t.stream).walk := by
  obtain ⟨p, s', hrun, hsource', hshows, -⟩ := exec_ofQuery_of_answers hsource q splitSynonyms s
  rw [OpenTerm.foldl_takeIn] at hshows
  refine ⟨p, s', hrun, ?_, List.length_map .., List.length_map .., fun t ht => ?_⟩
  · rw [← OpenTerm.map_text_gather, hshows.texts_eq]
  · obtain ⟨o, ho, hshow⟩ := hshows.exists_shown ht
    obtain ⟨text, -, hgathered⟩ := List.mem_filterMap.1 ho
    obtain ⟨first, rest, hfilter, rfl⟩ := OpenTerm.gathered_eq_some_iff.1 hgathered
    obtain rfl := OpenTerm.text_of_gathered hgathered
    refine ⟨first, rest, ?_, hshow.weight, hshow.stream, fun s₁ => ⟨s₁.handOut first.list, ?_⟩⟩
    · rw [hshow.text]
      exact hfilter
    · rw [← hsource'] at hsource
      refine ⟨exec_reopen_of_answers hsource hshow.opening s₁, rfl, ?_⟩
      rw [Session.stream_handOut_self]
      simp [Session.stream, Array.getD_eq_getD_getElem?, hshow.stream]

end Phrase

def groupedEntries : List (OpenTerm Float) :=
  [⟨"a", 1.0, ⟨some "a", #[⟨0, 2, [0]⟩, ⟨1, 1, [0]⟩], true⟩⟩,
    ⟨"a", 1.0, ⟨some "a", #[⟨0, 2, [0]⟩, ⟨1, 1, [0]⟩], true⟩⟩,
    ⟨"b", 1.0, ⟨some "b", #[⟨0, 2, [1]⟩], true⟩⟩]

theorem found_grouped :
    OpenTerm.found (Index.ofDocuments [["a", "b"], ["a"]] [] true).find?
      (Query.grouped.filtered.requests true) = groupedEntries := by
  have ha : Index.postingsIn "a" [["a", "b"], ["a"]] = [⟨0, 2, [0]⟩, ⟨1, 1, [0]⟩] := by decide
  have hb : Index.postingsIn "b" [["a", "b"], ["a"]] = [⟨0, 2, [1]⟩] := by decide
  simp [OpenTerm.found, requests_grouped, Index.find?, Index.postings?_ofDocuments, ha, hb,
    groupedEntries]

theorem Phrase.exec_ofQuery_gathers_grouped :
    ∃ (p : Phrase Float) (s' : Session Unit Float),
      (Phrase.ofQuery (Index.ofDocuments [["a", "b"], ["a"]] [] true).source
        Query.grouped.filtered true).exec (.start Float ()) = (.ok p, s') ∧
      p.terms.map PhraseTerm.text = ["a", "b"] ∧
      ∀ t ∈ p.terms, t.text = "a" → t.weight = 1.0 + 1.0 := by
  obtain ⟨p, s', hrun, htexts, -, -, hterms⟩ := Phrase.exec_ofQuery_gathers
    (Index.answers_source (Index.ofDocuments [["a", "b"], ["a"]] [] true)) Query.grouped.filtered
    true (.start Float ())
  rw [found_grouped] at htexts hterms
  refine ⟨p, s', hrun, htexts.trans (by decide), fun t ht htext => ?_⟩
  obtain ⟨first, rest, hfilter, hweight, -⟩ := hterms t ht
  rw [htext] at hfilter
  obtain ⟨rfl, rfl⟩ := List.cons.inj hfilter
  exact hweight

end ProximityRanking
