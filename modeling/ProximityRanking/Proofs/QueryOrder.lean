import Mathlib.Data.List.Nodup
import ProximityRanking.Proofs.Symmetry
/-!
Queries that hold the same terms in different orders open the same terms. In a query every text
stands for one term, so requests of one text open the same, and what is gathered from them is the
same up to the order.
-/
set_option autoImplicit false

namespace ProximityRanking

variable {α : Type}

namespace Query

def Named (q : Query α) : Prop :=
  ∀ text t, q.table.find? text = some t → t.text = text

namespace Named

variable {q : Query α}

theorem empty (id : Option String) : (Query.empty id : Query α).Named :=
  fun text t h => by simp [Query.empty] at h

theorem map_text_terms (h : q.Named) : q.terms.map QueryTerm.text = q.table.keys := by
  unfold terms Roster.values Roster.keys
  rw [List.map_map]
  refine List.map_congr_left fun e he => ?_
  exact h e.1 e.2 ((q.table.find?_eq_some_iff e.1 e.2).2 he)

theorem nodup_texts (h : q.Named) : (q.terms.map QueryTerm.text).Nodup := by
  rw [h.map_text_terms]
  exact q.table.nodup_keys

variable [Scalar α]

theorem add (h : q.Named) (t : QueryTerm α) : (q.add t).Named := by
  intro text t' ht'
  rw [Query.add, Roster.find?_alter] at ht'
  split at ht'
  · rename_i heq
    subst heq
    cases hfirst : q.table.find? t.text with
    | none =>
      rw [hfirst] at ht'
      cases ht'
      rfl
    | some first =>
      rw [hfirst] at ht'
      cases ht'
      exact h t.text first hfirst
  · exact h text t' ht'

theorem foldl_add (h : q.Named) (ts : List (QueryTerm α)) : (ts.foldl Query.add q).Named := by
  induction ts generalizing q with
  | nil => exact h
  | cons t ts ih => exact ih (h.add t)

theorem ofTerms (id : Option String) (ts : List (QueryTerm α)) : (Query.ofTerms id ts).Named :=
  foldl_add (empty id) ts

end Named

variable [Scalar α]

theorem toList_foldl_add {q : Query α} {ts : List (QueryTerm α)}
    (h : (q.table.keys ++ ts.map QueryTerm.text).Nodup) :
    (ts.foldl add q).table.toList = q.table.toList ++ ts.map fun t => (t.text, t) := by
  induction ts generalizing q with
  | nil => simp
  | cons t ts ih =>
    have hnew : ∀ v, (t.text, v) ∉ q.table.toList := by
      intro v hv
      have hkey : t.text ∈ q.table.keys := List.mem_map_of_mem (f := Prod.fst) hv
      exact List.disjoint_of_nodup_append h hkey (by simp)
    have hlist : (q.add t).table.toList = q.table.toList ++ [(t.text, t)] := by
      rw [add, Roster.toList_alter, upsert_of_not_mem hnew]
    have hkeys : (q.add t).table.keys = q.table.keys ++ [t.text] := by
      rw [Roster.keys, hlist, List.map_append]
      rfl
    rw [List.foldl_cons, ih (by rw [hkeys]; simpa using h), hlist]
    simp

theorem terms_ofTerms {id : Option String} {ts : List (QueryTerm α)}
    (h : (ts.map QueryTerm.text).Nodup) : (ofTerms id ts).terms = ts := by
  have hlist := toList_foldl_add (q := .empty id) (by simpa [empty] using h)
  rw [terms, Roster.values, ofTerms, hlist]
  simp [empty, Function.comp_def]

theorem terms_filtered {q : Query α} (h : q.Named) :
    q.filtered.terms = q.terms.filter fun t => !t.isPseudo :=
  terms_ofTerms (h.nodup_texts.sublist (List.filter_sublist.map _))

end Query

def OpeningRequest.Consistent (rs : List (OpeningRequest α)) : Prop :=
  ∀ r ∈ rs, ∀ r' ∈ rs, r.text = r'.text → r.opening = r'.opening

theorem Query.consistent_requests {q : Query α} (h : q.Named) (splitSynonyms : Bool) :
    OpeningRequest.Consistent (q.requests splitSynonyms) := by
  intro r hr r' hr' htext
  obtain ⟨t, ht, hr⟩ := List.mem_flatMap.1 hr
  obtain ⟨t', ht', hr'⟩ := List.mem_flatMap.1 hr'
  cases splitSynonyms with
  | true =>
    -- Each text is opened as a term of its own.
    have hopening : ∀ {r t}, r ∈ QueryTerm.requests (α := α) true t → r.opening = .term r.text := by
      intro r t hr
      unfold QueryTerm.requests at hr
      split at hr
      · obtain ⟨word, -, rfl⟩ := List.mem_map.1 hr
        rfl
      · obtain rfl := List.mem_singleton.1 hr
        rfl
    rw [hopening hr, hopening hr', htext]
  | false =>
    -- Each term of the query has one request, under its own text.
    have hrequests : ∀ t : QueryTerm α, ∃ r, t.requests false = [r] ∧ r.text = t.text := by
      intro t
      unfold QueryTerm.requests
      split
      · exact ⟨_, rfl, rfl⟩
      · exact ⟨_, rfl, rfl⟩
    obtain ⟨r₁, hone, htext₁⟩ := hrequests t
    obtain ⟨r₂, hone', htext₂⟩ := hrequests t'
    rw [hone, List.mem_singleton] at hr
    rw [hone', List.mem_singleton] at hr'
    subst hr hr'
    obtain rfl := List.inj_on_of_nodup_map h.nodup_texts ht ht' (by rw [← htext₁, htext, htext₂])
    rw [hone] at hone'
    cases hone'
    rfl

theorem Query.perm_requests {q q' : Query α} (h : q.terms.Perm q'.terms) (splitSynonyms : Bool) :
    (q.requests splitSynonyms).Perm (q'.requests splitSynonyms) :=
  h.flatMap_right _

namespace OpenTerm

def Consistent (os : List (OpenTerm α)) : Prop :=
  ∀ o ∈ os, ∀ o' ∈ os, o.text = o'.text → o.list = o'.list

theorem consistent_found {rs : List (OpeningRequest α)} (h : OpeningRequest.Consistent rs)
    (answer : Opening → Option PostingList) : Consistent (found answer rs) := by
  intro o ho o' ho' htext
  obtain ⟨r, hr, ho⟩ := List.mem_filterMap.1 ho
  obtain ⟨r', hr', ho'⟩ := List.mem_filterMap.1 ho'
  obtain ⟨list, hlist, rfl⟩ := Option.map_eq_some_iff.1 ho
  obtain ⟨list', hlist', rfl⟩ := Option.map_eq_some_iff.1 ho'
  have hopening := h r hr r' hr' htext
  rw [hopening, hlist'] at hlist
  exact (Option.some.inj hlist).symm

theorem addUp_eq_sum (first : ℚ) (rest : List (OpenTerm ℚ)) :
    addUp first rest = first + (rest.map OpenTerm.weight).sum := by
  induction rest generalizing first with
  | nil => exact (add_zero first).symm
  | cons o rest ih =>
    rw [List.map_cons, List.sum_cons, ← add_assoc]
    exact ih (first + o.weight)

theorem gathered_perm {os os' : List (OpenTerm ℚ)} (h : os.Perm os') (hos : Consistent os)
    (text : String) : gathered os text = gathered os' text := by
  have hfilter : (os.filter (·.text == text)).Perm (os'.filter (·.text == text)) := h.filter _
  unfold gathered
  cases hos₁ : os.filter (·.text == text) with
  | nil =>
    rw [hos₁] at hfilter
    rw [hfilter.nil_eq]
  | cons o rest =>
    cases hos₁' : os'.filter (·.text == text) with
    | nil =>
      rw [hos₁'] at hfilter
      rw [hfilter.eq_nil] at hos₁
      cases hos₁
    | cons o' rest' =>
      have ho : o ∈ os ∧ o.text = text := by
        have hmem : o ∈ os.filter (·.text == text) := by simp [hos₁]
        simpa using hmem
      have ho' : o' ∈ os ∧ o'.text = text := by
        have hmem : o' ∈ os'.filter (·.text == text) := by simp [hos₁']
        simpa [h.mem_iff] using hmem
      rw [hos₁, hos₁'] at hfilter
      have hweights : addUp o.weight rest = addUp o'.weight rest' := by
        rw [addUp_eq_sum, addUp_eq_sum]
        exact (hfilter.map OpenTerm.weight).sum_eq
      have hlists := hos o ho.1 o' ho'.1 (ho.2.trans ho'.2.symm)
      simp only [hweights, ho.2, ho'.2, hlists]

theorem perm_gather {os os' : List (OpenTerm ℚ)} (h : os.Perm os') (hos : Consistent os) :
    (gather os).Perm (gather os') := by
  have hgathered : gathered os = gathered os' := funext fun text => gathered_perm h hos text
  unfold gather
  rw [hgathered]
  refine List.Perm.filterMap _ ((List.perm_ext_iff_of_nodup (nodup_eraseDups _)
    (nodup_eraseDups _)).2 fun text => ?_)
  rw [List.mem_eraseDups, List.mem_eraseDups]
  exact (h.map OpenTerm.text).mem_iff

end OpenTerm

theorem Index.perm_openTerms (x : Index) {q q' : Query ℚ} (hq : q.Named)
    (h : q.terms.Perm q'.terms) (splitSynonyms : Bool) :
    (x.openTerms q splitSynonyms).Perm (x.openTerms q' splitSynonyms) := by
  rw [openTerms_eq_foldl_takeIn, openTerms_eq_foldl_takeIn, OpenTerm.foldl_takeIn,
    OpenTerm.foldl_takeIn]
  exact OpenTerm.perm_gather ((Query.perm_requests h splitSynonyms).filterMap _)
    (OpenTerm.consistent_found (Query.consistent_requests hq splitSynonyms) x.find?)

end ProximityRanking
