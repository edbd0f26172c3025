import ProximityRanking.Text.PrintableTable
/-!
Quoted text, as messages show it. Single quotes stand around the text, or double quotes when it
holds single quotes and no double ones; what is not printable is written by its code.
-/
set_option autoImplicit false

namespace ProximityRanking.Text

def hexCode (width : Nat) (n : Nat) : List Char :=
  let digits := Nat.toDigits 16 n
  List.replicate (width - digits.length) '0' ++ digits

def singleQuote : Char := '\x27'

def doubleQuote : Char := '\x22'

def escapedChar (quote c : Char) : List Char :=
  if c = quote ∨ c = '\\' then ['\\', c]
  else if c = '\n' then ['\\', 'n']
  else if c = '\r' then ['\\', 'r']
  else if c = '\t' then ['\\', 't']
  else if printableCodes.contains c then [c]
  else if c.toNat < 0x100 then '\\' :: 'x' :: hexCode 2 c.toNat
  else if c.toNat < 0x10000 then '\\' :: 'u' :: hexCode 4 c.toNat
  else '\\' :: 'U' :: hexCode 8 c.toNat

def quoteFor (cs : List Char) : Char :=
  if cs.contains singleQuote && !cs.contains doubleQuote then doubleQuote else singleQuote

def quoted (s : String) : String :=
  let quote := quoteFor s.toList
  String.ofList (quote :: s.toList.flatMap (escapedChar quote) ++ [quote])

def quotedOrNone : Option String → String
  | some s => quoted s
  | none => "None"

end ProximityRanking.Text
