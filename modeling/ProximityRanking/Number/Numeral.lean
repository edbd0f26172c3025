import ProximityRanking.Number.Binary64
import ProximityRanking.Text.Class
/-!
Numerals: the integers and reals that settings and the command line accept. Digits of every script
count, single underscores may stand between two digits, and blanks around a numeral are skipped.
-/
set_option autoImplicit false

namespace ProximityRanking

open Text

/-- A real numeral: `± digits * 10 ^ exponent`, an infinity, or not a number. -/
inductive Numeral where
  | finite (negative : Bool) (digits : Nat) (exponent : Int)
  | infinite (negative : Bool)
  | undefined
  deriving DecidableEq

namespace Numeral

/-- Blanks that may stand around a numeral: all but the ASCII separators. -/
def isMargin (c : Char) : Bool :=
  isBlank c && !(0x1C ≤ c.toNat && c.toNat < 0x20)

/-- A nonempty run of digits with single underscores between them. -/
def digitRun? : List Char → Option (List Nat)
  | [] => none
  | [c] => (digitValue? c).map ([·])
  | c :: '_' :: rest => do
    let d ← digitValue? c
    (d :: ·) <$> digitRun? rest
  | c :: next :: rest => do
    let d ← digitValue? c
    (d :: ·) <$> digitRun? (next :: rest)

def value (digits : List Nat) : Nat :=
  digits.foldl (fun n d => 10 * n + d) 0

def splitSign : List Char → Bool × List Char
  | '-' :: rest => (true, rest)
  | '+' :: rest => (false, rest)
  | cs => (false, cs)

def maxIntegerDigits : Nat := 4300

def integer? (s : String) : Option Int := do
  let (negative, body) := splitSign (trimWhile isMargin s.toList)
  let digits ← digitRun? body
  if maxIntegerDigits < digits.length then none
  else
    let n : Int := value digits
    some (if negative then -n else n)

def optionalRun? (cs : List Char) : Option (List Nat) :=
  if cs.isEmpty then some [] else digitRun? cs

def pointed? (cs : List Char) : Option (List Nat × List Nat) := do
  let whole := cs.takeWhile (· ≠ '.')
  match cs.dropWhile (· ≠ '.') with
  | [] => (·, []) <$> digitRun? whole
  | _ :: fraction =>
    if whole.isEmpty && fraction.isEmpty then none
    else
      let w ← optionalRun? whole
      let f ← optionalRun? fraction
      some (w, f)

def exponent? (cs : List Char) : Option Int := do
  let (negative, body) := splitSign cs
  let n : Int := value (← digitRun? body)
  some (if negative then -n else n)

def decimal? (negative : Bool) (cs : List Char) : Option Numeral := do
  let isMark (c : Char) : Bool := c == 'e' || c == 'E'
  let (whole, fraction) ← pointed? (cs.takeWhile (!isMark ·))
  let shift : Int ← match cs.dropWhile (!isMark ·) with
    | [] => some 0
    | _ :: rest => exponent? rest
  some (.finite negative (value (whole ++ fraction)) (shift - fraction.length))

/-- Reads a real numeral. The words for infinity and for what is not a number may be written in
either case. -/
def real? (s : String) : Option Numeral :=
  let (negative, body) := splitSign (trimWhile isMargin s.toList)
  match String.ofList (body.map Char.toLower) with
  | "inf" | "infinity" => some (.infinite negative)
  | "nan" => some .undefined
  | _ => decimal? negative body

/-- Decimal exponents beyond which a number rounds to infinity or to zero. -/
def exponentBound : Int := 400

def toFloat : Numeral → Float
  | .undefined => 0.0 / 0.0
  | .infinite negative => if negative then -1.0 / 0.0 else 1.0 / 0.0
  | .finite negative digits exponent =>
    let leading : Int := (toString digits).length + exponent
    if digits = 0 ∨ leading < -exponentBound then Binary64.nearest negative ⟨0, 1⟩
    else if exponentBound < leading then if negative then -1.0 / 0.0 else 1.0 / 0.0
    else Binary64.nearest negative ((Quotient.mk digits 1).scale 10 exponent)

end Numeral
end ProximityRanking
