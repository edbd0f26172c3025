import Mathlib.Data.List.Induction
import ProximityRanking.Roster
/-!
Grouping by key. A roster that collects items under their keys has for each key the items that came
with it, in the order in which they came, and its keys are those of the items in the order in which
they first came.
-/
set_option autoImplicit false

namespace ProximityRanking

variable {β γ : Type}

theorem filter_eraseDups (p : String → Bool) (l : List String) :
    (l.filter p).eraseDups = l.eraseDups.filter p := by
  -- `eraseDups` goes on with a filtered list, so the induction is on the length.
  induction h : l.length using Nat.strongRecOn generalizing l with
  | ind n ih =>
    cases l with
    | nil => rfl
    | cons k l =>
      have hle := List.length_filter_le (fun b => !b == k) l
      simp only [List.length_cons] at h
      rw [List.eraseDups_cons, List.filter_cons, List.filter_cons]
      by_cases hk : p k = true
      · rw [if_pos hk, if_pos hk, List.eraseDups_cons, List.filter_filter,
          ← ih _ (by omega) (l.filter fun b => !b == k) rfl, List.filter_filter]
        simp only [Bool.and_comm]
      · have hdrop : (l.filter fun b => !b == k).filter p = l.filter p := by
          rw [List.filter_filter]
          refine List.filter_congr fun b _ => ?_
          by_cases hb : b = k
          · subst hb; simp [hk]
          · simp [hb]
        rw [if_neg hk, if_neg hk, ← ih _ (by omega) (l.filter fun b => !b == k) rfl, hdrop]

theorem nodup_eraseDups (l : List String) : l.eraseDups.Nodup := by
  induction h : l.length using Nat.strongRecOn generalizing l with
  | ind n ih =>
    cases l with
    | nil => exact List.nodup_nil
    | cons k l =>
      have hle := List.length_filter_le (fun b => !b == k) l
      simp only [List.length_cons] at h
      rw [List.eraseDups_cons, List.nodup_cons]
      exact ⟨by simp [List.mem_eraseDups], ih _ (by omega) _ rfl⟩

theorem eraseDups_of_nodup {l : List String} (h : l.Nodup) : l.eraseDups = l := by
  induction l with
  | nil => rfl
  | cons k l ih =>
    obtain ⟨hk, hl⟩ := List.nodup_cons.1 h
    have hfilter : (l.filter fun b => !b == k) = l := by
      rw [List.filter_eq_self]
      rintro b hb
      have : b ≠ k := fun heq => hk (heq ▸ hb)
      simp [this]
    rw [List.eraseDups_cons, hfilter, ih hl]

theorem eraseDups_append_cons {ks : List String} {k : String} (h : k ∈ ks) (l : List String) :
    (ks ++ k :: l).eraseDups = (ks ++ l).eraseDups := by
  rw [List.eraseDups_append, List.eraseDups_append]
  simp [List.removeAll, h]

theorem eraseDups_flatMap_eraseDups (ls : List (List String)) :
    (ls.flatMap List.eraseDups).eraseDups = ls.flatten.eraseDups := by
  induction ls with
  | nil => rfl
  | cons l ls ih =>
    have hmem : ∀ k, l.eraseDups.elem k = l.elem k := by
      intro k
      rw [Bool.eq_iff_iff, List.elem_iff, List.elem_iff, List.mem_eraseDups]
    rw [List.flatMap_cons, List.flatten_cons, List.eraseDups_append, List.eraseDups_append,
      eraseDups_of_nodup (nodup_eraseDups l)]
    simp only [List.removeAll, hmem, filter_eraseDups, ih]

theorem lookup_cons_eq (k k₁ : String) (v : β) (l : List (String × β)) :
    List.lookup k ((k₁, v) :: l) = if k = k₁ then some v else l.lookup k := by
  rw [List.lookup_cons]
  by_cases h : k = k₁
  · simp [h]
  · simp [beq_false_of_ne h, h]

theorem lookup_upsert (k k' : String) (f : Option β → β) (l : List (String × β)) :
    (upsert k f l).lookup k' = if k' = k then some (f (l.lookup k)) else l.lookup k' := by
  induction l with
  | nil => simp [upsert, lookup_cons_eq]
  | cons e l ih =>
    obtain ⟨k₁, v⟩ := e
    by_cases h₁ : k₁ = k
    · subst h₁
      by_cases h : k' = k₁ <;> simp [upsert, lookup_cons_eq, h]
    · by_cases h : k' = k
      · subst h
        have h₂ : ¬ k' = k₁ := fun heq => h₁ heq.symm
        simp [upsert, h₁, lookup_cons_eq, h₂, ih]
      · simp [upsert, h₁, lookup_cons_eq, h, ih]

theorem keys_upsert (k : String) (f : Option β → β) (l : List (String × β)) :
    (upsert k f l).map Prod.fst =
      if k ∈ l.map Prod.fst then l.map Prod.fst else l.map Prod.fst ++ [k] := by
  induction l with
  | nil => rfl
  | cons e l ih =>
    obtain ⟨k₁, v⟩ := e
    by_cases h₁ : k₁ = k
    · simp [upsert, h₁]
    · have h₂ : ¬ k = k₁ := fun heq => h₁ heq.symm
      simp only [upsert, h₁, if_false, List.map_cons, ih, List.mem_cons, h₂, false_or]
      split <;> rfl

theorem lookup_eq_some_iff {l : List (String × β)} (h : (l.map Prod.fst).Nodup) (k : String)
    (v : β) : l.lookup k = some v ↔ (k, v) ∈ l := by
  induction l with
  | nil => simp
  | cons e l ih =>
    obtain ⟨k₁, v₁⟩ := e
    obtain ⟨hk, hl⟩ := List.nodup_cons.1 h
    by_cases h₁ : k = k₁
    · subst h₁
      have hnot : (k, v) ∉ l := fun hmem => hk (List.mem_map.2 ⟨(k, v), hmem, rfl⟩)
      simp [hnot, eq_comm]
    · simp [lookup_cons_eq, h₁, ih hl]

namespace Roster

theorem find?_eq_lookup (r : Roster β) (k : String) : r.find? k = r.toList.lookup k := by
  ext v
  rw [find?_eq_some_iff, lookup_eq_some_iff r.nodup_keys]

@[simp] theorem find?_empty (k : String) : (empty : Roster β).find? k = none := by
  rw [find?_eq_lookup]
  rfl

@[simp] theorem keys_empty : (empty : Roster β).keys = [] := rfl

theorem find?_alter (r : Roster β) (k k' : String) (f : Option β → β) :
    (r.alter k f).find? k' = if k' = k then some (f (r.find? k)) else r.find? k' := by
  simp only [find?_eq_lookup, toList_alter, lookup_upsert]

theorem keys_alter (r : Roster β) (k : String) (f : Option β → β) :
    (r.alter k f).keys = if k ∈ r.keys then r.keys else r.keys ++ [k] := by
  unfold keys
  rw [toList_alter, keys_upsert]

theorem place?_eq_some_iff (r : Roster β) (k : String) (i : Nat) :
    r.place? k = some i ↔ r.keys[i]? = some k := by
  unfold place?
  rw [r.places_iff]
  simp only [keys, toList, List.getElem?_map, Array.getElem?_toList, Option.map_eq_some_iff,
    Prod.exists, exists_and_right, exists_eq_right]

def collect (r : Roster (Array γ)) (items : List (String × γ)) : Roster (Array γ) :=
  items.foldl (fun r e => r.alter e.1 fun found => (found.getD #[]).push e.2) r

def under (k : String) (items : List (String × γ)) : List γ :=
  (items.filter (·.1 = k)).map Prod.snd

theorem under_cons_self (k : String) (x : γ) (items : List (String × γ)) :
    under k ((k, x) :: items) = x :: under k items := by
  simp [under]

theorem under_cons_of_ne {k k₁ : String} (h : k₁ ≠ k) (x : γ) (items : List (String × γ)) :
    under k ((k₁, x) :: items) = under k items := by
  simp [under, h]

theorem under_eq_nil {k : String} {items : List (String × γ)} (h : k ∉ items.map Prod.fst) :
    under k items = [] := by
  simp only [under, List.map_eq_nil_iff, List.filter_eq_nil_iff]
  intro e he heq
  exact h (List.mem_map.2 ⟨e, he, by simpa using heq⟩)

theorem under_flatMap {δ : Type} (k : String) (f : δ → List (String × γ)) (l : List δ) :
    under k (l.flatMap f) = l.flatMap fun x => under k (f x) := by
  unfold under
  rw [List.filter_flatMap, List.map_flatMap]

theorem under_eq_lookup {items : List (String × γ)} (h : (items.map Prod.fst).Nodup) (k : String) :
    under k items = (items.lookup k).toList := by
  induction items with
  | nil => rfl
  | cons e items ih =>
    obtain ⟨k₁, x⟩ := e
    obtain ⟨hk, hitems⟩ := List.nodup_cons.1 h
    by_cases h₁ : k₁ = k
    · subst h₁
      rw [under_cons_self, under_eq_nil hk, lookup_cons_eq, if_pos rfl]
      rfl
    · rw [under_cons_of_ne h₁, ih hitems, lookup_cons_eq, if_neg fun heq => h₁ heq.symm]

theorem find?_collect (r : Roster (Array γ)) (items : List (String × γ)) (k : String) :
    (r.collect items).find? k =
      if k ∈ items.map Prod.fst then some ((r.find? k).getD #[] ++ (under k items).toArray)
      else r.find? k := by
  induction items generalizing r with
  | nil => rfl
  | cons e items ih =>
    obtain ⟨k₁, x⟩ := e
    change ((r.alter k₁ fun found => (found.getD #[]).push x).collect items).find? k = _
    rw [ih, find?_alter]
    by_cases h : k = k₁
    · subst h
      by_cases hmem : k ∈ items.map Prod.fst
      · simp [under_cons_self, hmem]
      · simp [under_cons_self, hmem, under_eq_nil hmem]
    · have h' : k₁ ≠ k := fun heq => h heq.symm
      simp only [under_cons_of_ne h', List.map_cons, List.mem_cons, h, false_or, if_false]

theorem keys_foldl_alter {δ : Type} (r : Roster β) (key : δ → String)
    (f : δ → Option β → β) (items : List δ) :
    (items.foldl (fun r e => r.alter (key e) (f e)) r).keys =
      (r.keys ++ items.map key).eraseDups := by
  induction items generalizing r with
  | nil => simp [eraseDups_of_nodup r.nodup_keys]
  | cons e items ih =>
    rw [List.foldl_cons, ih, keys_alter]
    by_cases h : key e ∈ r.keys
    · rw [if_pos h, List.map_cons, eraseDups_append_cons h]
    · rw [if_neg h, List.map_cons, List.append_assoc]
      rfl

theorem keys_collect (r : Roster (Array γ)) (items : List (String × γ)) :
    (r.collect items).keys = (r.keys ++ items.map Prod.fst).eraseDups :=
  r.keys_foldl_alter Prod.fst (fun e found => (found.getD #[]).push e.2) items

theorem tally_concat (tokens : List String) (token : String) :
    tally (tokens ++ [token]) = (tally tokens).alter token fun n => n.getD 0 + 1 := by
  unfold tally
  rw [List.foldl_append]
  rfl

theorem keys_tally (tokens : List String) : (tally tokens).keys = tokens.eraseDups := by
  have h := keys_foldl_alter (β := Nat) empty id (fun _ n => n.getD 0 + 1) tokens
  rwa [keys_empty, List.nil_append, List.map_id] at h

theorem find?_tally (tokens : List String) (token : String) :
    (tally tokens).find? token = if token ∈ tokens then some (tokens.count token) else none := by
  induction tokens using List.reverseRecOn with
  | nil => exact find?_empty token
  | append_singleton tokens last ih =>
    rw [tally_concat, find?_alter]
    by_cases h : token = last
    · subst h
      rw [ih]
      by_cases hmem : token ∈ tokens
      · simp [hmem]
      · simp [hmem, List.count_eq_zero_of_not_mem hmem]
    · have hne : last ≠ token := fun heq => h heq.symm
      simp [ih, h, hne]

theorem toList_eq_map_keys {r : Roster β} {f : String → β}
    (h : ∀ k ∈ r.keys, r.find? k = some (f k)) : r.toList = r.keys.map fun k => (k, f k) := by
  unfold keys
  rw [List.map_map]
  refine (List.map_id _).symm.trans (List.map_congr_left fun e he => ?_)
  have hfind := h e.1 (List.mem_map.2 ⟨e, he, rfl⟩)
  rw [(r.find?_eq_some_iff e.1 e.2).2 he] at hfind
  exact Prod.ext rfl (Option.some.inj hfind)

theorem toList_tally (tokens : List String) :
    (tally tokens).toList = tokens.eraseDups.map fun token => (token, tokens.count token) := by
  rw [← keys_tally]
  refine toList_eq_map_keys fun token htoken => ?_
  rw [keys_tally, List.mem_eraseDups] at htoken
  rw [find?_tally, if_pos htoken]

end Roster
end ProximityRanking
