import ProximityRanking.Pairing
import ProximityRanking.Failure
import ProximityRanking.Number.Binary64
/-!
Counting windows. A document of length `l` has one window of `n` tokens for each start from `0` to
`l - n`, and a single one when it is shorter. The counters lay out a table of the starts, sweep over
it and let go of the positions that later windows no longer reach; `Window.HoldsPair` and
`Window.HoldsBoth` say which windows they count.
-/
set_option autoImplicit false

namespace ProximityRanking

-- Powers are those of core whatever else is imported; that takes exponents of a known type.
attribute [local instance (high)] instPowNat

def windowCount (window length : Int) : Int :=
  if length < window then 1 else length - window + 1

theorem one_le_windowCount (window length : Int) : 1 ≤ windowCount window length := by
  unfold windowCount
  split <;> omega

namespace Window

def HoldsPair (a b : List Int) (window start : Int) : Prop :=
  ∃ p ∈ a, ∃ q ∈ b, start ≤ p ∧ p < q ∧ q < start + window

def HoldsBoth (a b : List Int) (window start : Int) : Prop :=
  (∃ p ∈ a, start ≤ p ∧ p < start + window) ∧ ∃ q ∈ b, start ≤ q ∧ q < start + window

instance (a b : List Int) (window start : Int) : Decidable (HoldsPair a b window start) :=
  inferInstanceAs (Decidable (∃ p ∈ a, ∃ q ∈ b, start ≤ p ∧ p < q ∧ q < start + window))

instance (a b : List Int) (window start : Int) : Decidable (HoldsBoth a b window start) :=
  inferInstanceAs (Decidable ((∃ p ∈ a, start ≤ p ∧ p < start + window) ∧
    ∃ q ∈ b, start ≤ q ∧ q < start + window))

/-- The windows among the next `todo` ones, from `start` on, in which the earliest position of `a`
is followed by one of `b`; `found` counts those before. Both lists ascend. -/
def sweepPairs (window : Int) : Nat → Int → List Int → List Int → Nat → Nat
  | 0, _, _, _, found => found
  | todo + 1, start, a, b, found =>
    match a.dropWhile (· < start) with
    | [] => found
    | p :: a =>
      match b.dropWhile (· ≤ p) with
      | [] => found
      | q :: b =>
        sweepPairs window todo (start + 1) (p :: a) (q :: b)
          (if q < start + window then found + 1 else found)

def sweepBoth (window : Int) : Nat → Int → List Int → List Int → Nat → Nat
  | 0, _, _, _, found => found
  | todo + 1, start, a, b, found =>
    match a.dropWhile (· < start), b.dropWhile (· < start) with
    | p :: a, q :: b =>
      sweepBoth window todo (start + 1) (p :: a) (q :: b)
        (if p < start + window ∧ q < start + window then found + 1 else found)
    | _, _ => found

/-- The first integer that no position and no window length reaches. -/
def limit : Int := 2 ^ (63 : Nat)

/-- How many of the first `starts` windows can hold something: all but those that end beyond the
limit. -/
def reachable (window : Int) (starts : Nat) : Nat :=
  (min (starts : Int) (limit - window)).toNat

def countPairs (a b : List Int) (window : Int) (starts : Nat) : Nat :=
  sweepPairs window (reachable window starts) 0 a b 0

def countBoth (a b : List Int) (window : Int) (starts : Nat) : Nat :=
  sweepBoth window (reachable window starts) 0 a b 0

/-- The windows that a pair of terms scores: neighbours count where the first comes before the
second, other pairs where both occur. Without positions there is nothing to count, whatever the
window; otherwise the table of the starts is made first, and then the window must be a number of 64
bits. -/
def count [Table.Memory] (pairing : Pairing) (a b : List Int) (window length : Int) :
    Except Failure Int :=
  if a.isEmpty || b.isEmpty then .ok 0
  else
    match Table.length (windowCount window length).toNat with
    | .error fault => .error (.table fault)
    | .ok starts =>
      if !fitsBits 64 window then .error .beyond64Bits
      else
        match pairing with
        | .adjacent => .ok (countPairs a b window starts)
        | .every => .ok (countBoth a b window starts)

end Window
end ProximityRanking
