/-!
Dependence between terms: which pairs of a sequence of terms are scored together. Sequential
dependence takes neighbours and looks for the first before the second; full dependence takes every
pair and looks for both in any order.
-/
set_option autoImplicit false

namespace ProximityRanking

variable {β : Type}

/-- The pairs that are scored: neighbours, or all pairs. -/
inductive Pairing where
  | adjacent
  | every
  deriving DecidableEq, Repr

def adjacentPairs : List β → List (β × β)
  | x :: y :: rest => (x, y) :: adjacentPairs (y :: rest)
  | _ => []

def everyPair : List β → List (β × β)
  | [] => []
  | x :: rest => rest.map (x, ·) ++ everyPair rest

def Pairing.pairs : Pairing → List β → List (β × β)
  | .adjacent => adjacentPairs
  | .every => everyPair

theorem length_adjacentPairs (l : List β) : (adjacentPairs l).length = l.length - 1 := by
  induction l with
  | nil => rfl
  | cons x rest ih =>
    cases rest with
    | nil => rfl
    | cons y rest => simpa [adjacentPairs] using ih

theorem two_mul_length_everyPair (l : List β) :
    2 * (everyPair l).length = l.length * (l.length - 1) := by
  induction l with
  | nil => rfl
  | cons x rest ih =>
    simp only [everyPair, List.length_append, List.length_map, List.length_cons, Nat.mul_add, ih]
    cases rest with
    | nil => rfl
    | cons y rest =>
      simp only [List.length_cons, Nat.add_sub_cancel]
      rw [Nat.mul_comm (rest.length + 1) rest.length, ← Nat.add_mul, Nat.add_comm 2]

/-- The kind of dependence that a configuration asks for. -/
inductive DependencyMode where
  | sequential
  | full
  | unset
  deriving DecidableEq, Repr

namespace DependencyMode

def code : DependencyMode → String
  | .sequential => "SD"
  | .full => "FD"
  | .unset => ""

def ofCode? (s : String) : Option DependencyMode :=
  [sequential, full, unset].find? (·.code == s)

def pairing? : DependencyMode → Option Pairing
  | .sequential => some .adjacent
  | .full => some .every
  | .unset => none

end DependencyMode
end ProximityRanking
