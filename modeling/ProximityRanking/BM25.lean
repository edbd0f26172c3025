import ProximityRanking.Index
import ProximityRanking.ResultSet
/-!
First-stage ranking by BM25. Every distinct query token adds its weight to the documents it occurs
in; `ranking` puts all documents in order, and `retrieve` keeps those with a positive score.
-/
set_option autoImplicit false

namespace ProximityRanking

structure BM25 (α : Type) where
  index : Index
  saturation : α
  lengthWeight : α

namespace BM25

variable {α : Type} [LogScalar α]

def standard (index : Index) : BM25 α where
  index := index
  saturation := 1.5
  lengthWeight := 0.75

/-- The smallest divisor, which stands for an average length or a denominator that is smaller. -/
def smallestDivisor : α := 1.0e-9

def averageLength (r : BM25 α) : α :=
  let average : α := r.index.statistics.averageLength
  if average == 0.0 then smallestDivisor else average

def norm (r : BM25 α) (length : Nat) : α :=
  1.0 - r.lengthWeight + r.lengthWeight * (Scalar.ofInt length / r.averageLength)

def idf (r : BM25 α) (term : String) : α :=
  match r.index.lexiconEntry? term with
  | none => 0.0
  | some entry =>
    let df : Int := entry.documentFrequency
    LogScalar.log
      ((Scalar.ofInt (r.index.size - df) + 0.5) / (Scalar.ofInt df + 0.5) + 1.0)

def saturate (r : BM25 α) (frequency length : Nat) : α :=
  let tf : α := Scalar.ofInt frequency
  tf * (r.saturation + 1.0) /
    Scalar.greatest (tf + r.saturation * r.norm length) smallestDivisor

def addToken (r : BM25 α) (scores : Array α) (token : String) (count : Nat) : Array α :=
  let weight : α := Scalar.ofInt count * r.idf token
  (r.index.postingsOf token).foldl (fun scores p =>
    scores.modify p.docid.toNat
      (· + weight * r.saturate p.frequency p.length.toNat)) scores

/-- The scores of all documents. Repeated query tokens are grouped by their first occurrences. -/
def scoreAll (r : BM25 α) (query : List String) : Array α :=
  (Roster.tally query).toList.foldl (fun scores (token, count) => r.addToken scores token count)
    (Array.replicate r.index.size 0.0)

def ranking (r : BM25 α) (query : List String) : List (α × Nat) :=
  (r.scoreAll query).toList.zipIdx.mergeSort fun a b => Scalar.ranksBefore a.1 b.1

def rank (r : BM25 α) (query : List String) (limit : Option Int) : List (α × Nat) :=
  cut limit (r.ranking query)

theorem nodup_ranking (r : BM25 α) (query : List String) :
    ((r.ranking query).map Prod.snd).Nodup := by
  have h := (List.mergeSort_perm (r.scoreAll query).toList.zipIdx
    (fun a b => Scalar.ranksBefore a.1 b.1)).map Prod.snd
  rw [ranking, h.nodup_iff, List.zipIdx_map_snd]
  exact List.nodup_range'

def matchCounts (r : BM25 α) (query : List String) : Array Nat :=
  (Roster.tally query).keys.foldl (fun counts token =>
    (r.index.postingsOf token).foldl (fun counts p => counts.modify p.docid.toNat (· + 1)) counts)
    (Array.replicate r.index.size 0)

/-- The documents with a positive score, best first and up to a limit, each with the number of
distinct query tokens in it as a number of 16 bits. -/
def retrieve (r : BM25 α) (query : List String) (limit : Option Int) : ResultSet α :=
  let counts := r.matchCounts query
  let row (e : α × Nat) : Row α := ⟨e.2, e.1, Int16.ofNat (counts.getD e.2 0)⟩
  { rows := (cut limit ((r.ranking query).filter fun e => 0.0 < e.1)).map row
    nodup_docids := by
      have hsub := (cut_sublist limit ((r.ranking query).filter fun e => 0.0 < e.1)).trans
        List.filter_sublist
      have hnd := (r.nodup_ranking query).sublist (hsub.map Prod.snd)
      rw [List.map_map]
      have hmap : Row.docid ∘ row = (fun n : Nat => (n : Int)) ∘ Prod.snd := rfl
      rw [hmap, ← List.map_map]
      exact List.Pairwise.map _ (fun a b hab h => hab (Int.ofNat.inj h)) hnd }

end BM25
end ProximityRanking
