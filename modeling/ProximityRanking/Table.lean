import ProximityRanking.Number.Decimal
/-!
Tables of consecutive numbers. Before windows are counted there is a table with a number for the
start of each window, and before gains are summed one for each rank up to the cutoff. A table is
laid out as a whole, so a length that nothing can hold is refused before anything is counted. How
much memory there is depends on the machine: `Table.Memory` stands for any.
-/
set_option autoImplicit false

namespace ProximityRanking.Table

-- Powers are those of core whatever else is imported; that takes exponents of a known type.
attribute [local instance (high)] instPowNat

inductive Fault where
  /-- Its length has more than 64 bits. -/
  | uncountable
  /-- Its size in bytes has more than 64 bits. -/
  | unaddressable
  | noMemory (length : Nat)
  deriving DecidableEq, Repr

def numberBytes : Nat := 8

/-- A machine, by how much it can hold. -/
class Memory where
  /-- The first length for which there is no memory. -/
  capacity : Nat

/-- A machine with memory for all tables whose lengths are not rounded. -/
@[reducible] def Memory.large : Memory := ⟨2 ^ (53 : Nat)⟩

def units : List String :=
  ["bytes", "KiB", "MiB", "GiB", "TiB", "PiB", "EiB"]

/-- Two places after the point, one or none: as many as three digits leave room for. The point is
always there. -/
def threeDigits (x : Quotient) : String :=
  let withPlaces (places : Nat) : Nat := (x.scale 10 places).round
  let places := if withPlaces 2 < 1000 then 2 else if withPlaces 1 < 1000 then 1 else 0
  let digits := (toString (withPlaces places)).toList
  let whole := digits.length - places
  String.ofList (digits.take whole ++ '.' :: digits.drop whole)

def memoryText (bytes : Nat) : String :=
  let step := Nat.log2 bytes / 10
  let unit := if roundDiv bytes (1024 ^ step) = 1024 then step + 1 else step
  threeDigits ⟨bytes, 1024 ^ unit⟩ ++ " " ++ units.getD unit ""

def Fault.message : Fault → String
  | .uncountable => "Maximum allowed size exceeded"
  | .unaddressable =>
    "array is too big; `arr.size * arr.dtype.itemsize` is larger than the maximum possible size."
  | .noMemory length =>
    "Unable to allocate " ++ memoryText (numberBytes * length) ++
      " for an array with shape (" ++ toString length ++ ",) and data type int64"

/-- The length of the table that is asked to have `n` numbers. It is worked out as a double. The
double `2 ^ 63` is one more than 64 bits hold, and such a table stays empty. -/
def length [Memory] (n : Nat) : Except Fault Nat :=
  let length := Binary64.roundNat n
  if 2 ^ (63 : Nat) < length then .error .uncountable
  else if length = 2 ^ (63 : Nat) then .ok 0
  else if 2 ^ (63 : Nat) ≤ numberBytes * length then .error .unaddressable
  else if Memory.capacity ≤ length then .error (.noMemory length)
  else .ok length

/-- The table that is asked to have `n` numbers can be laid out. -/
structure Fits [Memory] (n : Nat) : Prop where
  addressable : numberBytes * Binary64.roundNat n < 2 ^ (63 : Nat)
  room : Binary64.roundNat n < Memory.capacity

instance [Memory] (n : Nat) : Decidable (Fits n) :=
  decidable_of_iff (_ ∧ _) ⟨fun h => ⟨h.1, h.2⟩, fun h => ⟨h.1, h.2⟩⟩

variable [Memory] {n : Nat}

theorem Fits.length_eq (h : Fits n) : length n = .ok (Binary64.roundNat n) := by
  have haddressable : 8 * Binary64.roundNat n < 2 ^ (63 : Nat) := h.addressable
  have hroom := h.room
  have h1 : ¬ 2 ^ (63 : Nat) < Binary64.roundNat n := by omega
  have h2 : ¬ Binary64.roundNat n = 2 ^ (63 : Nat) := by omega
  have h3 : ¬ 2 ^ (63 : Nat) ≤ 8 * Binary64.roundNat n := by omega
  have h4 : ¬ Memory.capacity ≤ Binary64.roundNat n := by omega
  simp only [length, numberBytes, if_neg h1, if_neg h2, if_neg h3, if_neg h4]

/-- Up to `2 ^ 53` no length is rounded, and a table has the length that it is asked for. -/
theorem fits_of_le (hn : n ≤ 2 ^ (53 : Nat)) (hroom : n < Memory.capacity) : Fits n := by
  have hr : Binary64.roundNat n = n := Binary64.roundNat_of_le hn
  refine ⟨?_, ?_⟩
  · rw [hr]
    change 8 * n < 2 ^ (63 : Nat)
    omega
  · rwa [hr]

end ProximityRanking.Table
