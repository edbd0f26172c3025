import ProximityRanking.Proofs.PseudoTerms
import ProximityRanking.Proofs.Tokens
/-!
Markers of pseudo terms. A marker is a hash sign, the name of an operator or none, and a decimal
digit of any script (`QueryTerm.IsMarker`). Looking for one from each place of a text on finds those
that stand in it. A blank is part of no marker, so no marker runs over a place where two words are
joined by one; and a token has no marker, because it has no hash sign.
-/
set_option autoImplicit false

namespace ProximityRanking

variable {α : Type}

theorem eq_nil_of_prefix_cons {m ys : List α} {sep : α} (hsep : sep ∉ m) (h : m <+: sep :: ys) :
    m = [] := by
  obtain hnil | ⟨rest, rfl, -⟩ := List.prefix_cons_iff.1 h
  · exact hnil
  · exact absurd List.mem_cons_self hsep

theorem infix_append_cons_iff {m xs ys : List α} {sep : α} (hsep : sep ∉ m) :
    m <:+: xs ++ sep :: ys ↔ m <:+: xs ∨ m <:+: ys := by
  constructor
  · intro h
    rcases List.infix_append_iff.1 h with hleft | hright | ⟨m₁, m₂, rfl, hsuffix, hprefix⟩
    · exact .inl hleft
    · rcases List.infix_cons_iff.1 hright with hprefix | hinfix
      · obtain rfl := eq_nil_of_prefix_cons hsep hprefix
        exact .inl List.nil_infix
      · exact .inr hinfix
    · obtain rfl := eq_nil_of_prefix_cons (fun hmem => hsep (List.mem_append_right m₁ hmem)) hprefix
      rw [List.append_nil]
      exact .inl hsuffix.isInfix
  · rintro (hleft | hright)
    · exact hleft.trans (List.prefix_append xs _).isInfix
    · exact hright.trans ((List.suffix_cons sep ys).trans (List.suffix_append xs _)).isInfix

namespace QueryTerm

def operators : List (List Char) :=
  [[], ['u', 'w'], ['o', 'w']]

/-- A hash sign, the name of an operator or none, and a decimal digit. -/
def IsMarker (m : List Char) : Prop :=
  ∃ operator ∈ operators, ∃ digit, Text.isDigit digit = true ∧ m = '#' :: (operator ++ [digit])

def HoldsMarker (cs : List Char) : Prop :=
  ∃ m, IsMarker m ∧ m <:+: cs

def firstLine (cs : List Char) : List Char :=
  cs.takeWhile (· ≠ '\n')

theorem firstLine_eq_self {cs : List Char} (h : '\n' ∉ cs) : firstLine cs = cs :=
  List.takeWhile_eq_self_iff.2 fun c hc => by
    rw [decide_eq_true_eq]
    rintro rfl
    exact h hc

theorem IsMarker.hash_mem {m : List Char} (h : IsMarker m) : '#' ∈ m := by
  obtain ⟨operator, -, digit, -, rfl⟩ := h
  exact List.mem_cons_self

theorem IsMarker.not_mem {m : List Char} (h : IsMarker m) {c : Char}
    (hc : c ∉ ['#', 'u', 'o', 'w']) (hdigit : Text.isDigit c = false) : c ∉ m := by
  have hoperators : ∀ operator ∈ operators, ∀ c ∈ operator, c ∈ ['#', 'u', 'o', 'w'] := by
    simp [operators]
  obtain ⟨operator, hoperator, digit, hdigit', rfl⟩ := h
  intro hmem
  rcases List.mem_cons.1 hmem with rfl | hmem
  · exact hc List.mem_cons_self
  rcases List.mem_append.1 hmem with hmem | hmem
  · exact hc (hoperators operator hoperator c hmem)
  · rw [List.mem_singleton.1 hmem, hdigit'] at hdigit
    cases hdigit

theorem startsMarker_iff (cs : List Char) :
    startsMarker cs = true ↔ ∃ m, IsMarker m ∧ m <+: cs := by
  constructor
  · intro h
    unfold startsMarker at h
    split at h
    · rename_i c rest
      exact ⟨['#', 'u', 'w', c], ⟨['u', 'w'], by decide, c, h, rfl⟩, rest, rfl⟩
    · rename_i c rest
      exact ⟨['#', 'o', 'w', c], ⟨['o', 'w'], by decide, c, h, rfl⟩, rest, rfl⟩
    · rename_i c rest _ _
      exact ⟨['#', c], ⟨[], by decide, c, h, rfl⟩, rest, rfl⟩
    · cases h
  · rintro ⟨m, ⟨operator, hoperator, digit, hdigit, rfl⟩, rest, rfl⟩
    simp only [operators, List.mem_cons, List.not_mem_nil, or_false] at hoperator
    obtain rfl | rfl | rfl := hoperator
    · -- The digit is not the first letter of an operator.
      have hu : digit ≠ 'u' := by rintro rfl; exact absurd hdigit (by decide)
      have ho : digit ≠ 'o' := by rintro rfl; exact absurd hdigit (by decide)
      simpa [startsMarker, hu, ho] using hdigit
    · exact hdigit
    · exact hdigit

theorem hasMarker_iff (cs : List Char) : hasMarker cs = true ↔ HoldsMarker cs := by
  induction cs with
  | nil =>
    simp only [hasMarker, Bool.false_eq_true, false_iff]
    rintro ⟨m, hm, hinfix⟩
    exact absurd hm.hash_mem (by simp [List.infix_nil.1 hinfix])
  | cons c rest ih =>
    rw [hasMarker, Bool.or_eq_true, startsMarker_iff, ih]
    simp only [HoldsMarker, List.infix_cons_iff, and_or_left, exists_or]

theorem HoldsMarker.hash_mem {cs : List Char} (h : HoldsMarker cs) : '#' ∈ cs := by
  obtain ⟨m, hm, hinfix⟩ := h
  exact hinfix.subset hm.hash_mem

theorem holdsMarker_append_cons {sep : Char} (hsep : ∀ m, IsMarker m → sep ∉ m)
    (xs ys : List Char) : HoldsMarker (xs ++ sep :: ys) ↔ HoldsMarker xs ∨ HoldsMarker ys := by
  constructor
  · rintro ⟨m, hm, hinfix⟩
    exact ((infix_append_cons_iff (hsep m hm)).1 hinfix).imp (⟨m, hm, ·⟩) (⟨m, hm, ·⟩)
  · rintro (⟨m, hm, hinfix⟩ | ⟨m, hm, hinfix⟩)
    · exact ⟨m, hm, (infix_append_cons_iff (hsep m hm)).2 (.inl hinfix)⟩
    · exact ⟨m, hm, (infix_append_cons_iff (hsep m hm)).2 (.inr hinfix)⟩

theorem holdsMarker_intercalate {sep : Char} (hsep : ∀ m, IsMarker m → sep ∉ m)
    (words : List (List Char)) :
    HoldsMarker ([sep].intercalate words) ↔ ∃ word ∈ words, HoldsMarker word := by
  induction words with
  | nil =>
    simp only [List.intercalate_nil, List.not_mem_nil, false_and, exists_false, iff_false]
    exact fun h => absurd h.hash_mem List.not_mem_nil
  | cons word rest ih =>
    cases rest with
    | nil => simp
    | cons next rest =>
      rw [List.intercalate_cons_cons, List.append_assoc, List.singleton_append,
        holdsMarker_append_cons hsep, ih]
      simp only [List.exists_mem_cons_iff]

theorem isPseudo_iff {t : QueryTerm α} (hkind : t.kind = .base ∨ t.kind = .synonym) :
    t.isPseudo = true ↔ HoldsMarker (firstLine t.text.toList) := by
  have hwindow : t.kind.isWindow = false := by
    rcases hkind with h | h <;> rw [h] <;> rfl
  rw [isPseudo, hwindow, Bool.false_or, hasMarker_iff, firstLine]

theorem holdsMarker_firstLine_iff (cs : List Char) : HoldsMarker (firstLine cs) ↔
    ∃ before m after, cs = before ++ m ++ after ∧ '\n' ∉ before ∧ IsMarker m := by
  constructor
  · rintro ⟨m, hm, before, after, hline⟩
    obtain ⟨rest, hrest⟩ := List.takeWhile_prefix (l := cs) (· ≠ '\n')
    refine ⟨before, m, after ++ rest, ?_, ?_, hm⟩
    · rw [← hrest, ← List.append_assoc, hline]
      rfl
    · intro hfeed
      have hmem : '\n' ∈ firstLine cs := by
        rw [← hline, List.append_assoc]
        exact List.mem_append_left _ hfeed
      simpa using List.mem_takeWhile_imp hmem
  · rintro ⟨before, m, after, rfl, hbefore, hm⟩
    have hmarker : '\n' ∉ m := hm.not_mem (by decide) (by decide)
    refine ⟨m, hm, before, after.takeWhile (· ≠ '\n'), ?_⟩
    rw [firstLine, List.takeWhile_append_of_pos]
    intro c hc
    rw [decide_eq_true_eq]
    rintro rfl
    exact (List.mem_append.1 hc).elim hbefore hmarker

theorem isPseudo_token {token : String} (h : Text.IsToken token) (weight : α) :
    (QueryTerm.mk token weight .base []).isPseudo = false := by
  rw [Bool.eq_false_iff, ne_eq, isPseudo_iff (.inl rfl)]
  intro hmarker
  have hhash : '#' ∈ token.toList := (List.takeWhile_prefix _).subset hmarker.hash_mem
  exact absurd (h.2.1 '#' hhash) (by decide +kernel)

/-- A synonym group is a pseudo term by a marker in one of its words: the text around them has none,
and none comes about where they meet. -/
theorem isPseudo_synonym_iff {alternatives : List String}
    (h : ∀ a ∈ alternatives, '\n' ∉ a.toList) (weight : α) :
    (synonym alternatives weight).isPseudo = true ↔ ∃ a ∈ alternatives, HoldsMarker a.toList := by
  have hblank : ∀ m, IsMarker m → ' ' ∉ m := fun m hm => hm.not_mem (by decide) (by decide)
  have hopen : ∀ m, IsMarker m → '(' ∉ m := fun m hm => hm.not_mem (by decide) (by decide)
  have hclose : ∀ m, IsMarker m → ')' ∉ m := fun m hm => hm.not_mem (by decide) (by decide)
  have hname : ¬ HoldsMarker ['#', 's', 'y', 'n'] := by
    rw [← hasMarker_iff]
    decide
  have hnone : ¬ HoldsMarker [] := by
    rw [← hasMarker_iff]
    decide
  have htext : (synonym alternatives weight).text.toList = ['#', 's', 'y', 'n'] ++
      '(' :: ([' '].intercalate (alternatives.map String.toList) ++ ')' :: []) := by
    simp [synonym, String.toList_intercalate]
  have hjoined : ∀ c ∈ [' '].intercalate (alternatives.map String.toList), c ≠ '\n' := by
    refine Text.forall_mem_intercalate (by decide) fun word hword c hc hfeed => ?_
    obtain ⟨a, ha, rfl⟩ := List.mem_map.1 hword
    subst hfeed
    exact h a ha hc
  have hfeed : '\n' ∉ (synonym alternatives weight).text.toList := by
    rw [htext]
    simpa using fun hmem => hjoined '\n' hmem rfl
  rw [isPseudo_iff (.inr rfl), firstLine_eq_self hfeed, htext, holdsMarker_append_cons hopen,
    holdsMarker_append_cons hclose, holdsMarker_intercalate hblank]
  simp [hname, hnone]

end QueryTerm

namespace Query

open QueryTerm

variable [Scalar α]

theorem terms_filtered_eq_self {id : Option String} {ts : List (QueryTerm α)}
    (h : ∀ t ∈ ts, t.isPseudo = false) :
    (ofTerms id ts).filtered.terms = (ofTerms id ts).terms := by
  rw [terms_filtered (.ofTerms id ts), List.filter_eq_self]
  intro t ht
  obtain ⟨e, he, rfl⟩ := List.mem_map.1 ht
  rw [isPseudo_of_mem_ofTerms he, leadsPseudo]
  cases hfirst : ts.find? (·.text == e.1) with
  | none => rfl
  | some first => simp [h first (List.mem_of_find?_eq_some hfirst)]

/-- A term that is not of the kind of a window is a pseudo term just when the first line of its text
holds a marker, that is, when there is one with no line feed before it. So a query of the tokens of
a text loses none of them when pseudo terms are left out; and a synonym group whose words have no
line feeds is left out just when one of its words holds a marker. -/
theorem markers_tell_pseudo_terms :
    (∀ t : QueryTerm α, t.kind = .base ∨ t.kind = .synonym →
      (t.isPseudo = true ↔ HoldsMarker (firstLine t.text.toList)) ∧
        (t.isPseudo = true ↔ ∃ before m after,
          t.text.toList = before ++ m ++ after ∧ '\n' ∉ before ∧ IsMarker m)) ∧
      (∀ (id : Option String) (s : String),
        (ofTokens id (Text.tokens s) : Query α).filtered.terms =
          (ofTokens id (Text.tokens s) : Query α).terms) ∧
      ∀ (alternatives : List String) (weight : α), (∀ a ∈ alternatives, '\n' ∉ a.toList) →
        ∀ (id : Option String) (ts : List (QueryTerm α)),
          synonym alternatives weight ∈ (ofTerms id ts).terms →
            (synonym alternatives weight ∉ (ofTerms id ts).filtered.terms ↔
              ∃ a ∈ alternatives, HoldsMarker a.toList) := by
  refine ⟨fun t hkind => ⟨isPseudo_iff hkind, ?_⟩, fun id s => ?_, ?_⟩
  · rw [isPseudo_iff hkind, holdsMarker_firstLine_iff]
  · refine terms_filtered_eq_self fun t ht => ?_
    obtain ⟨token, htoken, rfl⟩ := List.mem_map.1 ht
    exact isPseudo_token (Text.isToken_of_mem_tokens htoken) _
  · intro alternatives weight hfeeds id ts hmem
    rw [← isPseudo_synonym_iff hfeeds weight, terms_filtered (.ofTerms id ts), List.mem_filter]
    simp [hmem]

def apart : QueryTerm Float :=
  synonym ["c#", "1"] 2.0

theorem markers_tell_pseudo_terms_of_apart :
    (∀ a ∈ ["c#", "1"], '\n' ∉ a.toList) ∧ apart ∈ (ofTerms none [apart]).terms ∧
      apart ∈ (ofTerms none [apart]).filtered.terms ∧
      (QueryTerm.mk "sea\n#1" (1.0 : Float) .base []).isPseudo = false := by
  have hfeeds : ∀ a ∈ ["c#", "1"], '\n' ∉ a.toList := by decide
  have hmem : apart ∈ (ofTerms none [apart]).terms := by
    simp [terms_ofTerms]
  have hnone : ¬ ∃ a ∈ ["c#", "1"], HoldsMarker a.toList := by
    simp only [← hasMarker_iff]
    decide
  have hline : ¬ HoldsMarker (firstLine "sea\n#1".toList) := by
    rw [← hasMarker_iff]
    decide
  obtain ⟨hmarker, -, hgroup⟩ := markers_tell_pseudo_terms (α := Float)
  refine ⟨hfeeds, hmem, ?_, ?_⟩
  · exact not_not.1 fun hdropped => hnone ((hgroup _ _ hfeeds none [apart] hmem).1 hdropped)
  · rw [Bool.eq_false_iff, ne_eq, (hmarker _ (.inl rfl)).1]
    exact hline

end Query
end ProximityRanking
