import ProximityRanking.Failure
import ProximityRanking.Number.Decimal
/-!
What a scoring pass reports on its way: each event has a level and, for scores that are doubles, a
line of text.
-/
set_option autoImplicit false

namespace ProximityRanking

inductive Level where
  | debug
  | info
  | warning
  | error
  deriving DecidableEq, Repr

def Level.name : Level → String
  | .debug => "DEBUG"
  | .info => "INFO"
  | .warning => "WARNING"
  | .error => "ERROR"

structure Anomaly (α : Type) where
  function : String
  score : α
  docid : Int
  first : Nat
  second : Nat
  matching : Int
  length : Int

inductive Event (α : Type) where
  | settingsRefused (pass : String)
  | started (pass : String) (window : Int)
  | unknownRule (id : Int) (pass : String)
  | termNotFound (text : String)
  | phraseTerm (text : String)
  | dependencyUnset
  | anomaly (report : Anomaly α)
  | frequencyEstimate (function : String) (estimate : α) (pairs : Nat)
  | failed (pass : String) (cause : Failure)
  | finished (pass : String) (altered : Nat)

namespace Event

/-- Anomalies are warnings; what keeps a pass from being done in full is an error. -/
def level {α : Type} : Event α → Level
  | .settingsRefused _ | .unknownRule .. | .dependencyUnset | .failed .. => .error
  | .anomaly _ => .warning
  | .started .. | .finished .. => .info
  | .termNotFound _ | .phraseTerm _ | .frequencyEstimate .. => .debug

def nonFiniteText (x : Float) : String :=
  signedText (fun _ => "") x

def anomalyText (a : Anomaly Float) : String :=
  a.function ++ " returned " ++ nonFiniteText a.score ++ " for document " ++ toString a.docid ++
    " " ++ toString a.first ++ "," ++ toString a.second ++ " pf=" ++ toString a.matching ++
    " l=" ++ toString a.length

def failureText (pass : String) (cause : Failure) : String :=
  match cause with
  | .missingPositions _ =>
    "Error in " ++ pass ++ " " ++ cause.message ++
      " -- does your index have positions enabled?"
  | _ => "Error in " ++ pass ++ ": " ++ cause.message

def text : Event Float → String
  | .settingsRefused pass => "Invalid proximity configuration for " ++ pass
  | .started pass window => pass ++ " ngramlength=" ++ toString window
  | .unknownRule id pass => "Wrong function id " ++ toString id ++ " specified for " ++ pass
  | .termNotFound text => "term " ++ Text.quoted text ++ " not found in lexicon"
  | .phraseTerm text => "phrase term: " ++ text
  | .dependencyUnset => "proximity dependency type not set. Set it to either FD or SD"
  | .anomaly report => anomalyText report
  | .frequencyEstimate function estimate pairs =>
    function ++ " collection frequency estimate " ++ fixed 2 estimate ++ " over " ++
      toString pairs ++ " pairs"
  | .failed pass cause => failureText pass cause
  | .finished pass altered =>
    pass ++ " altered scores for " ++ toString altered ++ " documents"

end Event
end ProximityRanking
