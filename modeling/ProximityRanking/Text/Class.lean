/-!
Classes of characters. A set of code points is stored as the ascending bounds at which membership
changes: a code point belongs to it exactly when an odd number of bounds lies at or below it. Here
are the blanks, with trimming, and the decimal digits of all scripts with their values; the larger
classes have modules of their own.
-/
set_option autoImplicit false

namespace ProximityRanking.Text

/-- Bisection between `lo` and `hi`; the first argument bounds the number of halvings. -/
def bisect (key : Nat → Nat) (x : Nat) : Nat → Nat → Nat → Nat
  | 0, lo, _ => lo
  | fuel + 1, lo, hi =>
    if lo < hi then
      let mid := (lo + hi) / 2
      if key mid ≤ x then bisect key x fuel (mid + 1) hi else bisect key x fuel lo mid
    else lo

def countAtMost (size : Nat) (key : Nat → Nat) (x : Nat) : Nat :=
  bisect key x size 0 size

/-- A set of code points with its ascending bounds. -/
structure CodeSet where
  bounds : Array Nat

def CodeSet.contains (s : CodeSet) (c : Char) : Bool :=
  countAtMost s.bounds.size (fun i => s.bounds.getD i 0) c.toNat % 2 == 1

/-- White space of Unicode and the four ASCII separators of files, groups, records and units. -/
def blankCodes : CodeSet where
  bounds := #[0x9, 0xE, 0x1C, 0x21, 0x85, 0x86, 0xA0, 0xA1, 0x1680, 0x1681, 0x2000, 0x200B, 0x2028,
    0x202A, 0x202F, 0x2030, 0x205F, 0x2060, 0x3000, 0x3001]

def isBlank (c : Char) : Bool :=
  blankCodes.contains c

def dropEndWhile (p : Char → Bool) (cs : List Char) : List Char :=
  (cs.reverse.dropWhile p).reverse

def trimWhile (p : Char → Bool) (cs : List Char) : List Char :=
  dropEndWhile p (cs.dropWhile p)

def trim (s : String) : String :=
  String.ofList (trimWhile isBlank s.toList)

def allBlank (s : String) : Bool :=
  s.toList.all isBlank

def digitZeros : Array Nat := #[
    0x30, 0x660, 0x6F0, 0x7C0, 0x966, 0x9E6, 0xA66, 0xAE6, 0xB66, 0xBE6, 0xC66, 0xCE6, 0xD66, 0xDE6,
    0xE50, 0xED0, 0xF20, 0x1040, 0x1090, 0x17E0, 0x1810, 0x1946, 0x19D0, 0x1A80, 0x1A90, 0x1B50,
    0x1BB0, 0x1C40, 0x1C50, 0xA620, 0xA8D0, 0xA900, 0xA9D0, 0xA9F0, 0xAA50, 0xABF0, 0xFF10, 0x104A0,
    0x10D30, 0x11066, 0x110F0, 0x11136, 0x111D0, 0x112F0, 0x11450, 0x114D0, 0x11650, 0x116C0,
    0x11730, 0x118E0, 0x11950, 0x11C50, 0x11D50, 0x11DA0, 0x16A60, 0x16AC0, 0x16B50, 0x1D7CE,
    0x1D7D8, 0x1D7E2, 0x1D7EC, 0x1D7F6, 0x1E140, 0x1E2F0, 0x1E950, 0x1FBF0]

/-- The value of a decimal digit: its distance from the zero of its run. -/
def digitValue? (c : Char) : Option Nat :=
  let below := countAtMost digitZeros.size (fun i => digitZeros.getD i 0) c.toNat
  if below = 0 then none
  else
    let distance := c.toNat - digitZeros.getD (below - 1) 0
    if distance < 10 then some distance else none

def isDigit (c : Char) : Bool :=
  (digitValue? c).isSome

end ProximityRanking.Text
