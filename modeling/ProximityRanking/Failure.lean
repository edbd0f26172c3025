import ProximityRanking.Settings
import ProximityRanking.Table
/-!
What can go wrong while postings are read and documents are scored.
-/
set_option autoImplicit false

namespace ProximityRanking

inductive Failure where
  | missingPositions (term : Option String)
  | streamClosed (term : Option String)
  | notPositioned (term : Option String)
  /-- A term that was found before is no longer indexed. -/
  | termVanished (term : String)
  /-- An index or a counter reports trouble of its own. -/
  | reported (text : String)
  | unprepared (function : String)
  | divisionByZero
  | logOfNonPositive
  | ratioTooLarge
  | integerTooLarge
  | beyond64Bits
  /-- A table of windows or ranks that nothing can hold. -/
  | table (fault : Table.Fault)
  /-- Tables of different lengths that are multiplied number by number. -/
  | tablesDiffer (first second : Nat)
  | settings (fault : Settings.Fault)
  deriving DecidableEq, Repr

namespace Failure

def message : Failure → String
  | .missingPositions none => "No position data available"
  | .missingPositions (some term) => "No position data available for term " ++ Text.quoted term
  | .streamClosed term => "stream for " ++ Text.quotedOrNone term ++ " is closed"
  | .notPositioned term =>
    "stream for " ++ Text.quotedOrNone term ++ " is not positioned on a document"
  | .termVanished term => Text.quoted term
  | .reported text => text
  | .unprepared function => function ++ ".prepare() must be called before score()"
  | .divisionByZero => "float division by zero"
  | .logOfNonPositive => "math domain error"
  | .ratioTooLarge => "integer division result too large for a float"
  | .integerTooLarge => "int too large to convert to float"
  | .beyond64Bits => "Python int too large to convert to C long"
  | .table fault => fault.message
  | .tablesDiffer first second =>
    "operands could not be broadcast together with shapes (" ++ toString first ++ ",) (" ++
      toString second ++ ",) "
  | .settings fault => fault.message

end Failure
end ProximityRanking
