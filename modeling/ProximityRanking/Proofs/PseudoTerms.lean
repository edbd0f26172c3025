import ProximityRanking.Proofs.Accumulation
/-!
What is left of a query without its pseudo terms. Terms are gathered by their texts, so a choice
among texts may be made before or after that. Whether a term is a pseudo term depends on its kind as
well, and of all terms of one text the query knows the kind of the first. So the first term of a
text decides for all of them (`QueryTerm.leadsPseudo`).
-/
set_option autoImplicit false

namespace ProximityRanking

variable {α β : Type}

theorem filter_upsert (keep : String → Bool) (k : String) (f : Option β → β)
    (l : List (String × β)) :
    (upsert k f l).filter (fun e => keep e.1) =
      if keep k then upsert k f (l.filter fun e => keep e.1) else l.filter fun e => keep e.1 := by
  induction l with
  | nil => simp [upsert, List.filter_cons]
  | cons e rest ih =>
    obtain ⟨k', v⟩ := e
    by_cases hk : k' = k
    · subst hk
      cases h : keep k' <;> simp [upsert, h]
    · cases h : keep k' <;> cases h' : keep k <;>
        simp [upsert, hk, h, h', ih]

namespace QueryTerm

/-- Whether the first term of a text is a pseudo term. -/
def leadsPseudo (ts : List (QueryTerm α)) (text : String) : Bool :=
  (ts.find? (·.text == text)).any isPseudo

/-- Terms of one text are all pseudo terms, or none of them is. -/
def Agree (ts : List (QueryTerm α)) : Prop :=
  ∀ t ∈ ts, ∀ t' ∈ ts, t.text = t'.text → t.isPseudo = t'.isPseudo

theorem Agree.leadsPseudo_eq {ts : List (QueryTerm α)} (h : Agree ts) {t : QueryTerm α}
    (ht : t ∈ ts) : leadsPseudo ts t.text = t.isPseudo := by
  unfold leadsPseudo
  cases hfirst : ts.find? (·.text == t.text) with
  | none => exact absurd (List.find?_eq_none.1 hfirst t ht) (by simp)
  | some first =>
    have htext : first.text = t.text := by simpa using List.find?_some hfirst
    exact h first (List.mem_of_find?_eq_some hfirst) t ht htext

theorem isPseudo_congr {t t' : QueryTerm α} (hkind : t.kind = t'.kind) (htext : t.text = t'.text) :
    t.isPseudo = t'.isPseudo := by
  unfold isPseudo
  rw [hkind, htext]

end QueryTerm

namespace Query

variable [Scalar α]

theorem toList_ofTerms_filter (keep : String → Bool) (id : Option String)
    (ts : List (QueryTerm α)) :
    (ofTerms id (ts.filter fun t => keep t.text)).table.toList =
      (ofTerms id ts).table.toList.filter fun e => keep e.1 := by
  induction ts using List.reverseRecOn with
  | nil => rfl
  | append_singleton ts t ih =>
    rw [ofTerms_concat, add, Roster.toList_alter, filter_upsert, ← ih, List.filter_append]
    cases h : keep t.text with
    | true => simp [h, ofTerms_concat, add]
    | false => simp [h]

theorem isPseudo_of_mem_ofTerms {id : Option String} {ts : List (QueryTerm α)}
    {e : String × QueryTerm α} (he : e ∈ (ofTerms id ts).table.toList) :
    e.2.isPseudo = QueryTerm.leadsPseudo ts e.1 := by
  have hfound := ((ofTerms id ts).table.find?_eq_some_iff e.1 e.2).2 he
  rw [find?_ofTerms] at hfound
  rw [QueryTerm.leadsPseudo, ← List.head?_filter]
  cases hfilter : ts.filter (·.text == e.1) with
  | nil => simp [hfilter, QueryTerm.joined] at hfound
  | cons first rest =>
    simp only [hfilter, QueryTerm.joined, Option.some.injEq] at hfound
    rw [← hfound]
    exact QueryTerm.isPseudo_congr rfl rfl

/-- Without its pseudo terms a query has the terms of those texts whose first term is none, in the
same order, with the weights of all of their terms. So the terms could be left out beforehand, text
by text; and one by one, as long as terms of one text are all pseudo terms or none of them is. -/
theorem terms_filtered_ofTerms (id : Option String) (ts : List (QueryTerm α)) :
    (ofTerms id ts).filtered.terms =
        (ofTerms id (ts.filter fun t => !QueryTerm.leadsPseudo ts t.text)).terms ∧
      (QueryTerm.Agree ts →
        (ofTerms id ts).filtered.terms = (ofTerms id (ts.filter fun t => !t.isPseudo)).terms) := by
  have hfiltered : (ofTerms id ts).filtered.terms =
      (ofTerms id (ts.filter fun t => !QueryTerm.leadsPseudo ts t.text)).terms := by
    have hchosen := toList_ofTerms_filter (fun text => !QueryTerm.leadsPseudo ts text) id ts
    rw [terms_filtered (.ofTerms id ts), terms, terms, Roster.values, Roster.values, hchosen,
      List.filter_map]
    congr 1
    refine List.filter_congr fun e he => ?_
    simp [isPseudo_of_mem_ofTerms he]
  refine ⟨hfiltered, fun hagree => ?_⟩
  rw [hfiltered]
  congr 2
  exact List.filter_congr fun t ht => by rw [hagree.leadsPseudo_eq ht]

def marked : List (QueryTerm Float) :=
  [⟨"sea", 1.5, .base, []⟩, ⟨"#1(sea level)", 0.25, .base, []⟩, ⟨"level", 1.0, .base, []⟩,
    ⟨"#1(sea level)", 0.5, .window, []⟩, ⟨"sea", 1.0, .base, []⟩]

theorem terms_filtered_of_marked :
    QueryTerm.Agree marked ∧ (ofTerms none marked).filtered.terms =
      [⟨"sea", 1.5 + 1.0, .base, []⟩, ⟨"level", 1.0, .base, []⟩] := by
  have hagree : QueryTerm.Agree marked := by
    unfold QueryTerm.Agree
    decide
  refine ⟨hagree, ?_⟩
  rw [(terms_filtered_ofTerms none marked).2 hagree]
  have hkept : marked.filter (fun t => !t.isPseudo) =
      [⟨"sea", 1.5, .base, []⟩, ⟨"level", 1.0, .base, []⟩, ⟨"sea", 1.0, .base, []⟩] := by rfl
  rw [hkept]
  simp [ofTerms, terms, add, empty, Roster.values, upsert]

def mixed : List (QueryTerm Float) :=
  [⟨"a", 1.0, .window, []⟩, ⟨"a", 1.0, .base, []⟩]

/-- Terms of one text that are not all of one sort are taken for what the first of them is: a word
behind a window is lost, and a window behind a word leaves its weight. -/
theorem terms_filtered_ne_of_mixed :
    (ofTerms none mixed).filtered.terms ≠
        (ofTerms none (mixed.filter fun t => !t.isPseudo)).terms ∧
      (ofTerms none mixed.reverse).filtered.terms ≠
        (ofTerms none (mixed.reverse.filter fun t => !t.isPseudo)).terms := by
  have hword : mixed.filter (fun t => !t.isPseudo) = [⟨"a", 1.0, .base, []⟩] := by rfl
  have hword' : mixed.reverse.filter (fun t => !t.isPseudo) = [⟨"a", 1.0, .base, []⟩] := by rfl
  have hlost : (ofTerms none mixed).filtered.terms = [] := by
    have hwindow : (QueryTerm.mk "a" (1.0 + 1.0 : Float) .window []).isPseudo = true := by rfl
    rw [terms_filtered (.ofTerms none mixed)]
    simp [mixed, ofTerms, terms, add, empty, Roster.values, upsert, hwindow]
  have hsummed : (ofTerms none mixed.reverse).filtered.terms =
      [⟨"a", 1.0 + 1.0, .base, []⟩] := by
    have hbase : (QueryTerm.mk "a" (1.0 + 1.0 : Float) .base []).isPseudo = false := by rfl
    rw [terms_filtered (.ofTerms none mixed.reverse)]
    simp [mixed, ofTerms, terms, add, empty, Roster.values, upsert, hbase]
  rw [hword, hword', hlost, hsummed, terms_ofTerms (by simp)]
  have hweights : ((1.0 + 1.0 : Float) == 1.0) = false := by decide
  refine ⟨(List.cons_ne_nil _ _).symm, fun h => ?_⟩
  rw [(QueryTerm.mk.inj (List.cons.inj h).1).2.1] at hweights
  exact absurd hweights (by decide)

end Query
end ProximityRanking
