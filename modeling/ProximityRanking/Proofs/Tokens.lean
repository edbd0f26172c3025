import Mathlib.Data.List.Basic
import ProximityRanking.Proofs.LowerCase
import ProximityRanking.Text.Word
/-!
Texts and their words. A text is cut into words when it is the words in order, with other characters
before, between and behind them and at least one between two words (`Cut`). There is one way to cut
a text, and reading its runs finds it (`runs_eq_iff`). Words that are joined by a character of
another class are therefore found again.
-/
set_option autoImplicit false

namespace ProximityRanking.Text

variable {α : Type} {p : Char → Bool}

theorem forall_mem_intercalate {P : α → Prop} {sep : α} {words : List (List α)} (hsep : P sep)
    (h : ∀ word ∈ words, ∀ c ∈ word, P c) : ∀ c ∈ [sep].intercalate words, P c := by
  induction words with
  | nil => simp
  | cons word rest ih =>
    obtain ⟨hword, hrest⟩ := List.forall_mem_cons.1 h
    cases rest with
    | nil => simpa using hword
    | cons next rest =>
      rw [List.intercalate_cons_cons]
      intro c hc
      rcases List.mem_append.1 hc with hc | hc
      · rcases List.mem_append.1 hc with hc | hc
        · exact hword c hc
        · exact List.mem_singleton.1 hc ▸ hsep
      · exact ih hrest c hc

/-- A stretch of characters of a class that is not empty. -/
structure IsRun (p : Char → Bool) (word : List Char) : Prop where
  ne_nil : word ≠ []
  all : ∀ c ∈ word, p c = true

theorem IsRun.reverse {word : List Char} (hne : word ≠ []) (hall : ∀ c ∈ word, p c = true) :
    IsRun p word.reverse where
  ne_nil := by simpa using hne
  all := by simpa using hall

/-- A stretch of other characters, or nothing. -/
def IsGap (p : Char → Bool) (gap : List Char) : Prop :=
  ∀ c ∈ gap, p c = false

/-- A text is the given words in order. Only other characters stand before the first, between two
and behind the last of them, and at least one between two, so no word could be longer. -/
inductive Cut (p : Char → Bool) : List Char → List (List Char) → Prop
  | gap {gap : List Char} (hgap : IsGap p gap) : Cut p gap []
  | last {before word : List Char} (hbefore : IsGap p before) (hword : IsRun p word) :
    Cut p (before ++ word) [word]
  | next {before word rest : List Char} {sep : Char} {words : List (List Char)}
    (hbefore : IsGap p before) (hword : IsRun p word) (hsep : p sep = false)
    (hrest : Cut p rest words) : Cut p (before ++ word ++ sep :: rest) (word :: words)

theorem IsGap.cons {gap : List Char} {c : Char} (hc : p c = false) (h : IsGap p gap) :
    IsGap p (c :: gap) :=
  List.forall_mem_cons.2 ⟨hc, h⟩

namespace Cut

theorem cons {cs : List Char} {words : List (List Char)} {c : Char} (hc : p c = false)
    (h : Cut p cs words) : Cut p (c :: cs) words := by
  cases h with
  | gap hgap => exact .gap (hgap.cons hc)
  | last hbefore hword => exact .last (hbefore.cons hc) hword
  | next hbefore hword hsep hrest => exact .next (hbefore.cons hc) hword hsep hrest

theorem isRun {cs : List Char} {words : List (List Char)} (h : Cut p cs words) :
    ∀ word ∈ words, IsRun p word := by
  induction h with
  | gap hgap => simp
  | last hbefore hword => simpa using hword
  | next hbefore hword hsep hrest ih => simpa using ⟨hword, ih⟩

theorem flatten_eq_filter {cs : List Char} {words : List (List Char)} (h : Cut p cs words) :
    words.flatten = cs.filter p := by
  have hnone : ∀ {gap : List Char}, IsGap p gap → gap.filter p = [] := fun hgap =>
    List.filter_eq_nil_iff.2 fun c hc => by simp [hgap c hc]
  have hall : ∀ {word : List Char}, IsRun p word → word.filter p = word := fun hword =>
    List.filter_eq_self.2 hword.all
  induction h with
  | gap hgap => exact (hnone hgap).symm
  | last hbefore hword => simp [hnone hbefore, hall hword]
  | next hbefore hword hsep hrest ih => simp [hnone hbefore, hall hword, hsep, ih]

theorem intercalate {words : List (List Char)} {sep : Char} (hsep : p sep = false)
    (h : ∀ word ∈ words, IsRun p word) : Cut p ([sep].intercalate words) words := by
  have hnone : IsGap p [] := by simp [IsGap]
  induction words with
  | nil => exact .gap hnone
  | cons word rest ih =>
    have hword : IsRun p word := h word List.mem_cons_self
    cases rest with
    | nil =>
      rw [List.intercalate_singleton]
      exact .last hnone hword
    | cons next rest =>
      have hrest := ih fun w hw => h w (List.mem_cons_of_mem word hw)
      have hjoined := Cut.next hnone hword hsep hrest
      rwa [List.intercalate_cons_cons, List.append_assoc, List.singleton_append]

end Cut

theorem consRun_of_ne_nil {run : List Char} (h : run ≠ []) (rs : List (List Char)) :
    consRun run rs = run :: rs := by
  rw [consRun, if_neg (by simpa using h)]

theorem cut_runsFrom (run cs : List Char) (hrun : ∀ c ∈ run, p c = true) :
    Cut p (run.reverse ++ cs) (runsFrom p run cs) := by
  have hnone : IsGap p [] := by simp [IsGap]
  induction cs generalizing run with
  | nil =>
    by_cases hne : run = []
    · subst hne
      exact .gap hnone
    · have hword := IsRun.reverse hne hrun
      rw [runsFrom, consRun_of_ne_nil hword.ne_nil, List.append_nil]
      exact .last hnone hword
  | cons c rest ih =>
    rw [runsFrom]
    cases hc : p c with
    | true => simpa using ih (c :: run) (List.forall_mem_cons.2 ⟨hc, hrun⟩)
    | false =>
      -- The character ends the run that is being read, if there is one.
      have hrest : Cut p rest (runsFrom p [] rest) := ih [] (by simp)
      by_cases hne : run = []
      · subst hne
        exact hrest.cons hc
      · have hword := IsRun.reverse hne hrun
        simp only [Bool.false_eq_true, if_false]
        rw [consRun_of_ne_nil hword.ne_nil]
        exact .next hnone hword hc hrest

theorem runs_gap_append {gap : List Char} (hgap : IsGap p gap) (cs : List Char) :
    runs p (gap ++ cs) = runs p cs := by
  induction gap with
  | nil => rfl
  | cons c gap ih =>
    have hc : p c = false := hgap c List.mem_cons_self
    rw [← ih fun c' hc' => hgap c' (List.mem_cons_of_mem c hc')]
    simp [runs, runsFrom, hc, consRun]

theorem runsFrom_word_append {word : List Char} (hword : ∀ c ∈ word, p c = true)
    (run cs : List Char) : runsFrom p run (word ++ cs) = runsFrom p (word.reverse ++ run) cs := by
  induction word generalizing run with
  | nil => rfl
  | cons c word ih =>
    have hc : p c = true := hword c List.mem_cons_self
    have hrest := ih (fun c' hc' => hword c' (List.mem_cons_of_mem c hc')) (c :: run)
    simpa [runsFrom, hc] using hrest

theorem Cut.runs_eq {cs : List Char} {words : List (List Char)} (h : Cut p cs words) :
    runs p cs = words := by
  induction h with
  | gap hgap =>
    have hruns := runs_gap_append hgap []
    rwa [List.append_nil] at hruns
  | @last before word hbefore hword =>
    rw [runs_gap_append hbefore, runs]
    have hread := runsFrom_word_append hword.all [] []
    rw [List.append_nil] at hread
    rw [hread, runsFrom, List.append_nil, List.reverse_reverse, consRun_of_ne_nil hword.ne_nil]
  | @next before word rest sep words hbefore hword hsep hrest ih =>
    rw [List.append_assoc, runs_gap_append hbefore, runs, runsFrom_word_append hword.all, runsFrom,
      hsep, List.append_nil, List.reverse_reverse, consRun_of_ne_nil hword.ne_nil]
    simp only [Bool.false_eq_true, if_false]
    exact congrArg (word :: ·) ih

theorem runs_eq_iff (cs : List Char) (words : List (List Char)) :
    runs p cs = words ↔ Cut p cs words := by
  constructor
  · rintro rfl
    exact cut_runsFrom [] cs (by simp)
  · exact Cut.runs_eq

theorem isWord_of_ascii {c : Char} (h : c.toNat < 128) :
    isWord c = (c.isAlphanum || c == '_') := by
  have htable : ∀ n < 128, isWord (Char.ofNat n) =
      ((Char.ofNat n).isAlphanum || Char.ofNat n == '_') := by
    decide +kernel
  have hcode := htable c.toNat h
  rwa [Char.ofNat_toNat] at hcode

/-- A text that is a single word as it stands: not empty, of word characters only, in lower
case. -/
def IsToken (w : String) : Prop :=
  w ≠ "" ∧ (∀ c ∈ w.toList, isWord c = true) ∧ lower w = w

instance (w : String) : Decidable (IsToken w) :=
  decidable_of_iff (w ≠ "" ∧ w.toList.all isWord = true ∧ lower w = w)
    (by rw [IsToken, List.all_eq_true])

theorem IsToken.isRun {w : String} (h : IsToken w) : IsRun isWord w.toList where
  ne_nil hnil := h.1 (String.toList_eq_nil_iff.1 hnil)
  all := h.2.1

theorem map_toList_tokens (s : String) :
    (tokens s).map String.toList = runs isWord (lower s).toList := by
  simp [tokens, Function.comp_def]

theorem tokens_eq_iff (s : String) (ws : List String) :
    tokens s = ws ↔ Cut isWord (lower s).toList (ws.map String.toList) := by
  rw [← runs_eq_iff, ← map_toList_tokens]
  exact (List.map_injective_iff.2 fun _ _ => String.toList_inj.1).eq_iff.symm

theorem cut_tokens (s : String) :
    Cut isWord (lower s).toList ((tokens s).map String.toList) :=
  (tokens_eq_iff s (tokens s)).1 rfl

theorem flatMap_toList_tokens (s : String) :
    (tokens s).flatMap String.toList = (lower s).toList.filter isWord := by
  rw [List.flatMap_def, (cut_tokens s).flatten_eq_filter]

theorem isToken_of_mem_tokens {s w : String} (h : w ∈ tokens s) : IsToken w := by
  have hrun := (cut_tokens s).isRun _ (List.mem_map_of_mem h)
  refine ⟨fun hempty => hrun.ne_nil (by rw [hempty]; rfl), hrun.all, ?_⟩
  refine (lower_eq_self_iff w).2 fun c hc => unchanged_of_mem_lower (s := s) ?_
  have hmem : c ∈ (tokens s).flatMap String.toList := List.mem_flatMap.2 ⟨w, h, hc⟩
  rw [flatMap_toList_tokens] at hmem
  exact List.mem_of_mem_filter hmem

theorem lower_intercalate {ws : List String} (h : ∀ w ∈ ws, IsToken w) :
    lower (" ".intercalate ws) = " ".intercalate ws := by
  have hblank : Unchanged ' ' := by decide +kernel
  refine (lower_eq_self_iff _).2 ?_
  rw [String.toList_intercalate]
  refine forall_mem_intercalate hblank fun word hword => ?_
  obtain ⟨w, hw, rfl⟩ := List.mem_map.1 hword
  exact (lower_eq_self_iff w).1 (h w hw).2.2

theorem tokens_intercalate {ws : List String} (h : ∀ w ∈ ws, IsToken w) :
    tokens (" ".intercalate ws) = ws := by
  have hblank : isWord ' ' = false := by decide +kernel
  rw [tokens_eq_iff, lower_intercalate h, String.toList_intercalate]
  refine Cut.intercalate hblank fun word hword => ?_
  obtain ⟨w, hw, rfl⟩ := List.mem_map.1 hword
  exact (h w hw).isRun

/-- The tokens of a text are the words of its lower case: this is the tokens in order with nothing
but other characters before, between and behind them and at least one between two, and it can be cut
in no other way. So a token is not empty and holds word characters only, and of all word characters
none is lost, doubled or split off. A list of words in lower case, joined by blanks, has just these
for its tokens; as tokens are such words, cutting them again changes nothing. In ASCII the word
characters are the letters, the digits and the underscore. -/
theorem tokens_are_words :
    (∀ (s : String) (ws : List String),
      tokens s = ws ↔ Cut isWord (lower s).toList (ws.map String.toList)) ∧
      (∀ s : String, (∀ w ∈ tokens s, IsToken w) ∧
        (tokens s).flatMap String.toList = (lower s).toList.filter isWord) ∧
      (∀ ws : List String, (∀ w ∈ ws, IsToken w) → tokens (" ".intercalate ws) = ws) ∧
      (∀ s : String, tokens (" ".intercalate (tokens s)) = tokens s) ∧
      ∀ c : Char, c.toNat < 128 → isWord c = (c.isAlphanum || c == '_') :=
  ⟨tokens_eq_iff, fun s => ⟨fun _ => isToken_of_mem_tokens, flatMap_toList_tokens s⟩,
    fun _ => tokens_intercalate, fun _ => tokens_intercalate fun _ => isToken_of_mem_tokens,
    fun _ => isWord_of_ascii⟩

-- The lower case of a dotted capital I is a letter and a mark, which is no word character.
example : tokens "Kİev" = ["ki", "ev"] := by decide +kernel

theorem tokens_are_words_of_three :
    (∀ w ∈ ["ὁδός", "c_3", "naïve"], IsToken w) ∧
      tokens "ὁδός c_3 naïve" = ["ὁδός", "c_3", "naïve"] := by
  have hwords : ∀ w ∈ ["ὁδός", "c_3", "naïve"], IsToken w := by
    decide +kernel
  obtain ⟨-, -, hjoined, -⟩ := tokens_are_words
  exact ⟨hwords, hjoined ["ὁδός", "c_3", "naïve"] hwords⟩

end ProximityRanking.Text
