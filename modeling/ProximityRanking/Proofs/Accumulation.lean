import ProximityRanking.Proofs.QueryOrder
import ProximityRanking.Proofs.WholeNumbers
/-!
What a query holds of the terms that it was made of. Terms of one text are one term, which stands
where the first of them came, is of its kind and weighs as much as all of them together
(`QueryTerm.joined`). A query of plain tokens weighs each of them by the number of times that it
comes, which is how the first-stage ranking counts them.
-/
set_option autoImplicit false

namespace ProximityRanking

variable {α β : Type}

theorem Roster.values_eq_filterMap (r : Roster β) : r.values = r.keys.filterMap r.find? := by
  have hfound : ∀ e ∈ r.toList, r.find? e.1 = some e.2 :=
    fun e he => (r.find?_eq_some_iff e.1 e.2).2 he
  unfold values keys
  rw [List.filterMap_map, ← List.filterMap_eq_map]
  exact (List.filterMap_congr hfound).symm

variable [Scalar α]

namespace QueryTerm

/-- Terms as one term: the first of them with the weights of all, added up from left to right. -/
def joined : List (QueryTerm α) → Option (QueryTerm α)
  | [] => none
  | first :: rest =>
    some { first with weight := rest.foldl (fun weight t => weight + t.weight) first.weight }

theorem joined_concat (ts : List (QueryTerm α)) (t : QueryTerm α) :
    joined (ts ++ [t]) = some (match joined ts with
      | none => t
      | some first => { first with weight := first.weight + t.weight }) := by
  cases ts with
  | nil => rfl
  | cons first rest => simp [joined]

end QueryTerm

namespace Query

theorem ofTerms_concat (id : Option String) (ts : List (QueryTerm α)) (t : QueryTerm α) :
    ofTerms id (ts ++ [t]) = (ofTerms id ts).add t := by
  simp [ofTerms]

theorem id_ofTerms (id : Option String) (ts : List (QueryTerm α)) : (ofTerms id ts).id = id := by
  induction ts using List.reverseRecOn with
  | nil => rfl
  | append_singleton ts t ih =>
    rw [ofTerms_concat]
    exact ih

theorem find?_ofTerms (id : Option String) (ts : List (QueryTerm α)) (text : String) :
    (ofTerms id ts).table.find? text = QueryTerm.joined (ts.filter (·.text == text)) := by
  induction ts using List.reverseRecOn with
  | nil => exact Roster.find?_empty text
  | append_singleton ts t ih =>
    rw [ofTerms_concat, add, Roster.find?_alter, List.filter_append]
    by_cases htext : text = t.text
    · subst htext
      cases hfirst : QueryTerm.joined (ts.filter (·.text == t.text)) with
      | none => simp [QueryTerm.joined_concat, ih, hfirst]
      | some first => simp [QueryTerm.joined_concat, ih, hfirst]
    · have hne : ¬ t.text = text := fun heq => htext heq.symm
      simp [htext, hne, ih]

theorem keys_ofTerms (id : Option String) (ts : List (QueryTerm α)) :
    (ofTerms id ts).table.keys = (ts.map QueryTerm.text).eraseDups := by
  have htable : ts.foldl (fun r t => r.alter t.text fun
      | none => t
      | some first => { first with weight := first.weight + t.weight }) (empty id).table =
        (ts.foldl add (empty id)).table := List.foldl_hom Query.table fun _ _ => rfl
  rw [ofTerms, ← htable, Roster.keys_foldl_alter]
  rfl

theorem terms_ofTerms_eq_filterMap (id : Option String) (ts : List (QueryTerm α)) :
    (ofTerms id ts).terms = (ts.map QueryTerm.text).eraseDups.filterMap fun text =>
      QueryTerm.joined (ts.filter (·.text == text)) := by
  rw [terms, Roster.values_eq_filterMap, keys_ofTerms]
  exact List.filterMap_congr fun text _ => find?_ofTerms id ts text

theorem filtered_filtered {q : Query α} (h : q.Named) : q.filtered.filtered = q.filtered := by
  have hid : q.filtered.id = q.id := id_ofTerms q.id _
  rw [filtered, hid, terms_filtered h, List.filter_filter]
  simp only [Bool.and_self, filtered]

theorem joined_replicate (token : String) (k : Nat) (h : k + 1 < 2 ^ 53) :
    QueryTerm.joined (List.replicate (k + 1) (⟨token, 1.0, .base, []⟩ : QueryTerm Float)) =
      some ⟨token, Scalar.ofInt (k + 1 : Nat), .base, []⟩ := by
  have hsum := Binary64.foldl_add_one
    (List.replicate k (⟨token, 1.0, .base, []⟩ : QueryTerm Float)) (by simpa using h)
  rw [List.length_replicate] at hsum
  rw [List.replicate_succ, QueryTerm.joined]
  congr 2
  refine (List.foldl_ext _ _ _ fun weight t ht => ?_).trans hsum
  rw [List.eq_of_mem_replicate ht]

theorem terms_ofTokens (id : Option String) {tokens : List String}
    (h : tokens.length < 2 ^ 53) :
    (ofTokens id tokens : Query Float).terms =
      (Roster.tally tokens).toList.map fun e => ⟨e.1, Scalar.ofInt e.2, .base, []⟩ := by
  have htexts : (tokens.map fun token => (⟨token, 1.0, .base, []⟩ : QueryTerm Float)).map
      QueryTerm.text = tokens := by
    simp [Function.comp_def]
  rw [ofTokens, terms_ofTerms_eq_filterMap, htexts, Roster.toList_tally, List.map_map]
  refine Eq.trans (List.filterMap_congr fun token htoken => ?_) (congrFun List.filterMap_eq_map _)
  have hcount : List.count token tokens ≤ tokens.length := List.count_le_length
  have hpos : 0 < List.count token tokens :=
    List.count_pos_iff.2 (List.mem_eraseDups.1 htoken)
  obtain ⟨k, hk⟩ : ∃ k, List.count token tokens = k + 1 := ⟨_, (Nat.succ_pred_eq_of_pos hpos).symm⟩
  have hfilter : (tokens.map fun token => (⟨token, 1.0, .base, []⟩ : QueryTerm Float)).filter
      (·.text == token) = List.replicate (k + 1) ⟨token, 1.0, .base, []⟩ := by
    rw [List.filter_map, ← hk]
    simp [Function.comp_def, List.filter_beq]
  rw [hfilter, joined_replicate token k (by omega)]
  simp [hk]

/-- Terms may be given at once or added one by one. The query has one term for each text, in the
order in which the texts first come: the first term of that text, with the weights of all of them
added up from left to right. Leaving the pseudo terms out gives a query of the same name with the
other terms as they were, and there is nothing more to leave out then; the query itself is a value
and stays what it was. A query of tokens has those that the first-stage ranking counts, in the same
order, and as long as there are fewer than `2 ^ 53` of them every weight is the whole number that is
counted. -/
theorem accumulates_by_text (id : Option String) (ts more : List (QueryTerm α)) :
    more.foldl add (ofTerms id ts) = ofTerms id (ts ++ more) ∧
      (ofTerms id ts).id = id ∧
      (ofTerms id ts).terms.map QueryTerm.text = (ts.map QueryTerm.text).eraseDups ∧
      (ofTerms id ts).terms = ((ts.map QueryTerm.text).eraseDups.filterMap fun text =>
        QueryTerm.joined (ts.filter (·.text == text))) ∧
      (ofTerms id ts).filtered.id = id ∧
      (ofTerms id ts).filtered.terms = (ofTerms id ts).terms.filter (fun t => !t.isPseudo) ∧
      (ofTerms id ts).filtered.filtered = (ofTerms id ts).filtered ∧
      ∀ tokens : List String, tokens.length < 2 ^ 53 →
        (ofTokens id tokens : Query Float).terms =
            (Roster.tally tokens).toList.map (fun e => ⟨e.1, Scalar.ofInt e.2, .base, []⟩) ∧
          ∀ e ∈ (Roster.tally tokens).toList,
            e.2 = tokens.count e.1 ∧ Binary64.IsWhole (Scalar.ofInt e.2) e.2 := by
  have hnamed := Named.ofTerms id ts
  refine ⟨?_, id_ofTerms id ts, ?_, terms_ofTerms_eq_filterMap id ts, ?_, terms_filtered hnamed,
    filtered_filtered hnamed, ?_⟩
  · rw [ofTerms, ofTerms, List.foldl_append]
  · rw [hnamed.map_text_terms, keys_ofTerms]
  · rw [filtered, id_ofTerms, id_ofTerms]
  · intro tokens htokens
    refine ⟨terms_ofTokens id htokens, fun e he => ?_⟩
    rw [Roster.toList_tally] at he
    obtain ⟨token, htoken, rfl⟩ := List.mem_map.1 he
    have hpos : 0 < tokens.count token := List.count_pos_iff.2 (List.mem_eraseDups.1 htoken)
    have hle : tokens.count token ≤ tokens.length := List.count_le_length
    exact ⟨rfl, Binary64.isWhole_ofInt hpos (by omega)⟩

theorem accumulates_by_text_of_three_tokens :
    ["sea", "level", "sea"].length < 2 ^ 53 ∧
      (ofTokens none ["sea", "level", "sea"] : Query Float).terms =
        [⟨"sea", 2.0, .base, []⟩, ⟨"level", 1.0, .base, []⟩] := by
  have hlength : ["sea", "level", "sea"].length < 2 ^ 53 := by decide
  obtain ⟨-, -, -, -, -, -, -, htokens⟩ := accumulates_by_text none ([] : List (QueryTerm Float)) []
  have hcounted : (Roster.tally ["sea", "level", "sea"]).toList = [("sea", 2), ("level", 1)] := by
    rw [Roster.toList_tally]
    decide
  have hone : (Scalar.ofInt 1 : Float) = 1.0 := by decide
  have htwo : (Scalar.ofInt 2 : Float) = 2.0 := by decide
  refine ⟨hlength, (htokens ["sea", "level", "sea"] hlength).1.trans ?_⟩
  simp [hcounted, hone, htwo]

end Query
end ProximityRanking
