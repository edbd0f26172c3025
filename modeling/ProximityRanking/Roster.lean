import Std.Data.HashMap
/-!
Tables with text keys that keep the order in which their keys first came. Entries stand in an array
and a hash map tells the place of each key; the view `toList` is what the rest of the project
reasons about, and `toList_alter` and `find?_eq_some_iff` say that the hash map cannot be seen.
-/
set_option autoImplicit false

namespace ProximityRanking

variable {β γ : Type}

/-- Changes the value of a key in place, or adds the key at the end. -/
def upsert (k : String) (f : Option β → β) : List (String × β) → List (String × β)
  | [] => [(k, f none)]
  | (k', v) :: rest => if k' = k then (k', f (some v)) :: rest else (k', v) :: upsert k f rest

theorem upsert_of_not_mem {k : String} {f : Option β → β} {l : List (String × β)}
    (h : ∀ v, (k, v) ∉ l) : upsert k f l = l ++ [(k, f none)] := by
  induction l with
  | nil => rfl
  | cons e rest ih =>
    obtain ⟨k', v⟩ := e
    have hne : k' ≠ k := by rintro rfl; exact h v (by simp)
    have hrest : ∀ v, (k, v) ∉ rest := fun v hv => h v (by simp [hv])
    simp [upsert, hne, ih hrest]

theorem upsert_of_getElem? {k : String} {f : Option β → β} {l : List (String × β)} {i : Nat} {v : β}
    (hi : l[i]? = some (k, v)) (hu : ∀ j w, l[j]? = some (k, w) → j = i) :
    upsert k f l = l.modify i fun e => (k, f (some e.2)) := by
  induction l generalizing i with
  | nil => simp at hi
  | cons e rest ih =>
    obtain ⟨k', v'⟩ := e
    cases i with
    | zero =>
      simp only [List.getElem?_cons_zero, Option.some.injEq, Prod.mk.injEq] at hi
      obtain ⟨rfl, rfl⟩ := hi
      simp [upsert]
    | succ i =>
      have hne : k' ≠ k := by
        rintro rfl
        exact absurd (hu 0 v' rfl) (by omega)
      have hrest := ih (i := i) (by simpa using hi) fun j w hj => by
        have := hu (j + 1) w (by simpa using hj)
        omega
      simp [upsert, hne, hrest]

/-- A table from texts to values in the order of the first insertions. -/
structure Roster (β : Type) where
  entries : Array (String × β)
  places : Std.HashMap String Nat
  /-- The hash map knows the place of every key and nothing else. -/
  places_iff : ∀ (k : String) (i : Nat), places[k]? = some i ↔ ∃ v, entries[i]? = some (k, v)

namespace Roster

def empty : Roster β where
  entries := #[]
  places := ∅
  places_iff := by simp

def toList (r : Roster β) : List (String × β) :=
  r.entries.toList

def keys (r : Roster β) : List String :=
  r.toList.map Prod.fst

def values (r : Roster β) : List β :=
  r.toList.map Prod.snd

def size (r : Roster β) : Nat :=
  r.entries.size

def place? (r : Roster β) (k : String) : Option Nat :=
  r.places[k]?

def find? (r : Roster β) (k : String) : Option β :=
  (r.place? k).bind fun i => (r.entries[i]?).map Prod.snd

def contains (r : Roster β) (k : String) : Bool :=
  (r.place? k).isSome

theorem place_unique (r : Roster β) {k : String} {i j : Nat} {v w : β}
    (hi : r.entries[i]? = some (k, v)) (hj : r.entries[j]? = some (k, w)) : i = j := by
  have h₁ := (r.places_iff k i).2 ⟨v, hi⟩
  have h₂ := (r.places_iff k j).2 ⟨w, hj⟩
  rw [h₁] at h₂
  exact Option.some.inj h₂

def alter (r : Roster β) (k : String) (f : Option β → β) : Roster β :=
  match h : r.places[k]? with
  | some i =>
    { entries := r.entries.modify i fun e => (k, f (some e.2))
      places := r.places
      places_iff := by
        intro k' j
        rw [r.places_iff k' j]
        obtain ⟨v, hv⟩ := (r.places_iff k i).1 h
        simp only [Array.getElem?_modify]
        by_cases hij : i = j
        · subst hij
          simp [hv, eq_comm]
        · simp [hij] }
  | none =>
    { entries := r.entries.push (k, f none)
      places := r.places.insert k r.entries.size
      places_iff := by
        intro k' j
        have hnew : ∀ (i : Nat) (v : β), r.entries[i]? ≠ some (k, v) := by
          intro i v hv
          have := (r.places_iff k i).2 ⟨v, hv⟩
          rw [h] at this
          cases this
        have hold := r.places_iff k' j
        simp only [Std.HashMap.getElem?_insert, Array.getElem?_push]
        by_cases hk : k = k'
        · subst hk
          simp only [BEq.rfl, if_true, Option.some.injEq]
          constructor
          · intro hj; exact ⟨f none, by simp [hj]⟩
          · rintro ⟨v, hv⟩
            by_cases hj : j = r.entries.size
            · exact hj.symm
            · simp only [hj, if_false] at hv
              exact absurd hv (hnew j v)
        · simp only [beq_iff_eq, hk, if_false]
          rw [hold]
          by_cases hj : j = r.entries.size
          · subst hj
            simp [hk]
          · simp [hj] }

@[simp] theorem toList_alter (r : Roster β) (k : String) (f : Option β → β) :
    (r.alter k f).toList = upsert k f r.toList := by
  unfold alter
  split
  · rename_i i h
    obtain ⟨v, hv⟩ := (r.places_iff k i).1 h
    rw [upsert_of_getElem? (i := i) (v := v) (by simpa [toList] using hv)]
    · simp [toList]
    · intro j w hj
      exact r.place_unique (by simpa [toList] using hj) hv
  · rename_i h
    rw [upsert_of_not_mem]
    · simp [toList]
    · intro v hv
      obtain ⟨i, hi⟩ := List.mem_iff_getElem?.1 hv
      have := (r.places_iff k i).2 ⟨v, by simpa [toList] using hi⟩
      rw [h] at this
      cases this

@[simp] theorem toList_empty : (empty : Roster β).toList = [] := rfl

theorem nodup_keys (r : Roster β) : r.keys.Nodup := by
  unfold List.Nodup
  rw [List.pairwise_iff_getElem]
  intro i j hi hj hij heq
  simp only [keys, toList, List.length_map, Array.length_toList] at hi hj
  simp only [keys, toList, List.getElem_map, Array.getElem_toList] at heq
  have hplace := r.place_unique (k := r.entries[j].1) (v := r.entries[i].2) (w := r.entries[j].2)
    (i := i) (j := j) (by rw [Array.getElem?_eq_getElem hi, ← heq])
    (by rw [Array.getElem?_eq_getElem hj])
  omega

theorem find?_eq_some_iff (r : Roster β) (k : String) (v : β) :
    r.find? k = some v ↔ (k, v) ∈ r.toList := by
  constructor
  · intro h
    obtain ⟨i, hi, hv⟩ := Option.bind_eq_some_iff.1 h
    obtain ⟨w, hw⟩ := (r.places_iff k i).1 hi
    simp only [hw, Option.map_some, Option.some.injEq] at hv
    subst hv
    exact List.mem_iff_getElem?.2 ⟨i, by simpa [toList] using hw⟩
  · intro h
    obtain ⟨i, hi⟩ := List.mem_iff_getElem?.1 h
    have hi' : r.entries[i]? = some (k, v) := by simpa [toList] using hi
    have hp := (r.places_iff k i).2 ⟨v, hi'⟩
    simp [find?, place?, hp, hi']

def tally (ks : List String) : Roster Nat :=
  ks.foldl (fun r k => r.alter k fun n => n.getD 0 + 1) empty

end Roster
end ProximityRanking
