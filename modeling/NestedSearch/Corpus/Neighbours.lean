import NestedSearch.Corpus.Document
import NestedSearch.Predicate.Basic
import NestedSearch.Scope

/-!
# Nearest neighbours

The documents of a scope whose vectors in a field are nearest to a given one. They are chosen
among all indexes together: by distance, then by the name of the index, then by identifier.
-/

namespace NestedSearch

/-! ## Distances between vectors

How near two vectors are, in single precision and in the order of their components. A smaller
distance is nearer. Distances are compared by rank, which puts every result in its place, also
the negative zero and what is not a number.
-/

/-- The sum of the products of the components. -/
def innerProduct (zero : Float32) (v w : List Float32) : Float32 :=
  (v.zipWith (· * ·) w).foldl (· + ·) zero

/-- The sum of the squares of the components. -/
def squaredNorm (zero : Float32) (v : List Float32) : Float32 := innerProduct zero v v

namespace DistanceMetric

/-- The distance between two vectors of one length. The cosine of a vector without a direction
    counts as zero. -/
def distance (metric : DistanceMetric) (v w : List Float32) : Float32 :=
  match metric with
  | .cosine =>
    let norms := (squaredNorm 0 v).sqrt * (squaredNorm 0 w).sqrt
    if 0 < norms then 1 - innerProduct 0 v w / norms else 1
  | .euclidean => (squaredNorm (-0) (v.zipWith (· - ·) w)).sqrt
  | .dotProduct => -innerProduct (-0) v w

/-- The place of a distance among all distances: numbers by their size, the negative zero before the
    positive one. What is not a number comes first, but last where the sign of the result is
    turned. -/
def rank (metric : DistanceMetric) (distance : Float32) : Int :=
  if distance.isNaN then if metric = .dotProduct then Nat.pow 2 32 else -(Nat.pow 2 32)
  else
    let bits := distance.toBits.toNat
    if bits < Nat.pow 2 31 then bits else Nat.pow 2 31 - 1 - bits

end DistanceMetric

/-! ## Candidates -/

/-- A document with the rank of its distance. -/
structure Candidate where
  rank : Int
  hit : Hit
deriving DecidableEq

namespace Candidate

/-- Whether one candidate is at least as near as the other; names decide between candidates of one
    rank. -/
def precedes (a b : Candidate) : Bool :=
  if a.rank = b.rank then
    if a.hit.index = b.hit.index then a.hit.id ≤ b.hit.id else a.hit.index < b.hit.index
  else a.rank < b.rank

end Candidate

/-- The rank of the vector that is nearest to the query, of those that are as long. -/
def nearestRank? (metric : DistanceMetric) (query : List Float32)
    (vectors : List (List Float32)) : Option Int :=
  ((vectors.filter fun v => v.length = query.length).map fun v =>
    metric.rank (metric.distance query v)).min?

/-- The metric of a vector field. -/
def Node.metric? : Node → Option DistanceMetric
  | .value f =>
    match f.type with
    | .vector _ metric => some metric
    | _ => none
  | .object .. => none

namespace Corpus

/-- The documents of an index that have a vector to compare with the query. -/
def candidatesIn (c : Corpus) (field : FieldPath) (query : List Float32) (i : TargetIndex) :
    List Candidate :=
  match (i.schema.node? field).bind Node.metric? with
  | none => []
  | some metric => (c.documents i.name).entries.filterMap fun (id, d) =>
    (nearestRank? metric query (d.vectors field.segments)).map fun rank => ⟨rank, ⟨i.name, id⟩⟩

/-- The documents of a scope that have a vector to compare with the query. -/
def candidates (c : Corpus) (scope : SearchScope) (field : FieldPath) (query : List Float32) :
    List Candidate :=
  scope.indexes.flatMap (c.candidatesIn field query)

/-- The `k` documents nearest to the query, or all of them if there are fewer. -/
def nearest (c : Corpus) (scope : SearchScope) (field : FieldPath) (query : List Float32)
    (k : Nat) : List Hit :=
  (((c.candidates scope field query).mergeSort Candidate.precedes).take k).map Candidate.hit

/-- The documents that a leaf selects by their distance; only a leaf that asks for neighbours
    selects any. -/
def neighbours (c : Corpus) (scope : SearchScope) (l : Leaf) : List Hit :=
  match l.kind, l.fields with
  | .knn vector k, field :: _ => c.nearest scope field vector k
  | _, _ => []

end Corpus

end NestedSearch
