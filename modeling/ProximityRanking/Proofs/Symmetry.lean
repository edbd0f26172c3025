import Mathlib.Algebra.Order.Ring.Rat
import Mathlib.Algebra.Field.Rat
import Mathlib.Tactic.Order
import ProximityRanking.Proofs.CollectionFrequency
import ProximityRanking.Proofs.Gathering
/-!
What does not depend on an order. Windows that hold both terms of a pair, the weight of a pair and
the documents in which two terms meet are the same with the terms exchanged, so the pairs of a list
of terms are, up to their order, those of the list in another order. A sum does not depend on the
order of what is added when arithmetic is exact.
-/
set_option autoImplicit false

namespace ProximityRanking

-- Sums start from the zero of core, whatever else is imported.
attribute [local instance (high)] Zero.ofOfNat0

variable {α β γ ε : Type}

instance Scalar.rational : Scalar ℚ where
  decLT := inferInstance
  decLE := inferInstance
  isFinite _ := true
  ofInt n := n
  ofRatio n d := n / d

theorem Scalar.least_comm (a b : ℚ) : Scalar.least a b = Scalar.least b a := by
  unfold least
  split <;> split <;> order

theorem Scalar.greatest_comm (a b : ℚ) : Scalar.greatest a b = Scalar.greatest b a := by
  unfold greatest
  split <;> split <;> order

theorem WeightRule.combine_comm (id : Int) (a b : ℚ) : combine id a b = combine id b a := by
  unfold combine
  cases ofId? id with
  | none => rfl
  | some rule =>
    cases rule with
    | average => exact add_comm _ _
    | product => exact mul_comm _ _
    | least => exact Scalar.least_comm a b
    | greatest => exact Scalar.greatest_comm a b

theorem perm_map_everyPair {f : β × β → γ} {l l' : List β} (h : l.Perm l')
    (hf : ∀ a ∈ l, ∀ b ∈ l, f (a, b) = f (b, a)) :
    ((everyPair l).map f).Perm ((everyPair l').map f) := by
  induction h with
  | nil => exact .nil
  | cons a h ih =>
    simp only [everyPair, List.map_append, List.map_map]
    refine .append (h.map _) (ih fun b hb c hc => ?_)
    exact hf b (List.mem_cons_of_mem a hb) c (List.mem_cons_of_mem a hc)
  | swap a b l =>
    simp only [everyPair, List.map_cons, List.cons_append, List.map_append, List.map_map]
    rw [hf b (by simp) a (by simp)]
    exact .cons _ (List.perm_append_comm_assoc _ _ _)
  | trans h _ ih ih' =>
    refine (ih hf).trans (ih' fun b hb c hc => ?_)
    exact hf b (h.mem_iff.2 hb) c (h.mem_iff.2 hc)

theorem filterMap_bothOf_everyPair (l : List (Option (Occurrence α))) :
    (everyPair l).filterMap bothOf = everyPair l.reduceOption := by
  induction l with
  | nil => rfl
  | cons o l ih =>
    rw [everyPair, List.filterMap_append, ih, List.filterMap_map]
    cases o with
    | none =>
      have hnone : l.filterMap (bothOf ∘ (none, ·)) = [] := by simp [bothOf]
      rw [hnone, List.reduceOption_cons_of_none, List.nil_append]
    | some a =>
      have hsome : l.filterMap (bothOf ∘ (some a, ·)) = l.reduceOption.map (a, ·) := by
        rw [List.reduceOption, List.map_filterMap]
        rfl
      rw [hsome, List.reduceOption_cons_of_some, everyPair]

theorem toOption_mapM_cons (f : β → Except ε γ) (b : β) (l : List β) :
    ((b :: l).mapM f).toOption =
      (f b).toOption.bind fun x => (l.mapM f).toOption.map (x :: ·) := by
  rw [List.mapM_cons]
  cases f b with
  | error e => rfl
  | ok x => cases l.mapM f <;> rfl

theorem perm_mapM {f : β → Except ε γ} {l l' : List β} (h : l.Perm l') :
    Option.Rel List.Perm (l.mapM f).toOption (l'.mapM f).toOption := by
  induction h with
  | nil => exact .some .nil
  | @cons b l l' _ ih =>
    rw [toOption_mapM_cons, toOption_mapM_cons]
    generalize (l.mapM f).toOption = xs, (l'.mapM f).toOption = xs' at ih
    cases (f b).toOption with
    | none => exact .none
    | some x =>
      cases ih with
      | none => exact .none
      | some h => exact .some (.cons x h)
  | swap a b l =>
    simp only [toOption_mapM_cons]
    cases (f a).toOption <;> cases (f b).toOption <;> cases (l.mapM f).toOption <;>
      first | exact .none | exact .some (.swap _ _ _)
  | @trans l₁ l₂ l₃ _ _ ih ih' =>
    generalize (l₁.mapM f).toOption = xs₁, (l₂.mapM f).toOption = xs₂,
      (l₃.mapM f).toOption = xs₃ at ih ih'
    cases ih with
    | none => exact ih'
    | some h =>
      cases ih' with
      | some h' => exact .some (h.trans h')

theorem perm_mapM_everyPair {f : β × β → Except ε γ} {l l' : List β} (h : l.Perm l')
    (hf : ∀ a ∈ l, ∀ b ∈ l, f (a, b) = f (b, a)) :
    Option.Rel List.Perm ((everyPair l).mapM f).toOption ((everyPair l').mapM f).toOption := by
  have hpairs := perm_mapM (f := id) (perm_map_everyPair h hf)
  rwa [List.mapM_map, List.mapM_map] at hpairs

namespace Window

theorem sweepBoth_comm (window : Int) (todo : Nat) (start : Int) (a b : List Int) (found : Nat) :
    sweepBoth window todo start a b found = sweepBoth window todo start b a found := by
  induction todo generalizing start a b found with
  | zero => rfl
  | succ todo ih =>
    unfold sweepBoth
    cases a.dropWhile (· < start) with
    | nil => cases b.dropWhile (· < start) <;> rfl
    | cons p a =>
      cases b.dropWhile (· < start) with
      | nil => rfl
      | cons q b =>
        simp only [and_comm (a := q < start + window)]
        exact ih _ _ _ _

theorem count_every_comm [Table.Memory] (a b : List Int) (window length : Int) :
    count .every a b window length = count .every b a window length := by
  simp only [count, Bool.or_comm b.isEmpty, countBoth, sweepBoth_comm window _ 0 b a]

end Window

variable [Table.Memory]

def Window.answer (request : CountRequest) : Except Failure Int :=
  count request.pairing request.first request.second request.window request.length

theorem Window.answer_requestFor_comm (window : Int) {p q : Posting} (h : p.length = q.length) :
    answer (requestFor .every window (p, q)) = answer (requestFor .every window (q, p)) := by
  simp only [answer, requestFor, h, count_every_comm p.positions]

theorem Scoring.pairTotal_every_comm (window : Int) (documents : List (List String))
    (p q : String → Bool) :
    pairTotal Window.answer .every window documents p q =
      pairTotal Window.answer .every window documents q p := by
  have hid : ∀ l : List (Posting × Posting),
      l.mapM (fun both => Window.answer (requestFor .every window both)) =
        (l.map fun both => Window.answer (requestFor .every window both)).mapM id := by
    intro l
    rw [List.mapM_map]
    rfl
  unfold pairTotal
  rw [hid, hid, joinPostings_postingsWhere, joinPostings_postingsWhere, List.map_filterMap,
    List.map_filterMap]
  congr 2
  refine List.filterMap_congr fun e _ => ?_
  rw [Bool.and_comm]
  split
  · exact congrArg some (Window.answer_requestFor_comm window rfl)
  · rfl

end ProximityRanking
