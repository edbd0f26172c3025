import ProximityRanking.Proofs.Doubles
import ProximityRanking.Proofs.LookUp
/-!
Runs over an index without positions. The positions are the first thing that is read of a pair, so a
run gets as far as the first document with a pair of terms to be scored, and no document has more
than its weighted score in the end.
-/
set_option autoImplicit false

namespace ProximityRanking

variable {σ α : Type}

namespace Index

variable [Scalar α]

end Index

namespace Pass

variable [Scalar α] {p : Pass σ α}

end Pass

namespace Rescorer

variable [Scalar α]

end Rescorer

namespace Pass

variable [Scalar α] {p : Pass σ α} {terms : List (OpenTerm α)}
  (hweights : p.weights = terms.map OpenTerm.weight)
  (hpositional : ∀ t ∈ terms, t.list.positional = false)

include hweights hpositional

end Pass

namespace Rescorer

section Pass

variable {r : Rescorer σ Float} {settings : Settings Float} {pairing : Pairing}
  {terms : List (OpenTerm Float)} {phrase : Phrase Float} {results : ResultSet Float}
  {s s₁ : Session σ Float}
  (hweights : phrase.terms.map PhraseTerm.weight = terms.map OpenTerm.weight)
  (hascends : ∀ t ∈ terms, t.list.Ascends) (hpositional : ∀ t ∈ terms, t.list.positional = false)
  (hready : ((r.passOver settings pairing phrase).ready phrase).exec s =
    (.ok (terms.map fun t => (Stream.ofList t.list).step), s₁))

include hweights hascends hpositional hready

end Pass

end Rescorer

end ProximityRanking
