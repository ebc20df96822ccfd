import NestedSearch.Param
import NestedSearch.Schema.Usage

/-!
# Predicates

A query is a tree of predicates. Its leaves test fields, or look at documents as wholes; its
inner nodes combine, negate, scope and score. A named node stands for a predicate that an index
provides under that name.
-/

namespace NestedSearch

/-- How clauses, or the terms of a query string, are combined. -/
inductive BoolOperator where
  | and
  | or
deriving DecidableEq, Repr

/-- A place on the globe, in degrees. -/
structure GeoPoint where
  lat : Float
  lon : Float

namespace GeoPoint

/-- Whether the point lies within the usual bounds of latitude and longitude. -/
def isValid (p : GeoPoint) : Bool :=
  -90 ≤ p.lat && p.lat ≤ 90 && -180 ≤ p.lon && p.lon ≤ 180

end GeoPoint

/-- One end of a range. -/
structure RangeBound where
  value : ParamValue
  inclusive : Bool

/-- What a leaf tests. -/
inductive PredicateKind where
  | matching (value : ParamValue) (analysis : AnalysisOverride) (fuzziness : Nat)
  | phrase (text : String) (slop : Nat) (analysis : AnalysisOverride)
  | wildcard (pattern : String)
  | regexp (pattern : String)
  | simpleQueryString (query : String) (operator : BoolOperator) (analysis : AnalysisOverride)
  | range (lower upper : Option RangeBound)
  | exists
  | withinCircle (center : GeoPoint) (radiusMeters : Float)
  | withinPolygon (points : List GeoPoint)
  | withinBoundingBox (topLeft bottomRight : GeoPoint)
  | knn (vector : List Float32) (k : Nat)
  | matchAll
  | matchNone
  | ids (documents : List String)

namespace PredicateKind

/-- The usage that the fields must support; `none` for what targets no field. -/
def usage? : PredicateKind → Option Usage
  | .matching .. => some .matching
  | .phrase .. => some .phrase
  | .wildcard _ => some .wildcard
  | .regexp _ => some .regexp
  | .simpleQueryString .. => some .simpleQueryString
  | .range .. => some .range
  | .exists => some .exists
  | .withinCircle .. => some .withinCircle
  | .withinPolygon _ => some .withinPolygon
  | .withinBoundingBox .. => some .withinBoundingBox
  | .knn .. => some .knn
  | .matchAll | .matchNone | .ids _ => none

/-- Whether one leaf may target several fields. -/
def isMultiField : PredicateKind → Bool
  | .matching .. | .phrase .. | .wildcard _ | .regexp _ | .simpleQueryString .. | .range .. => true
  | _ => false

/-- The analysis that the predicate asks for. -/
def analysis : PredicateKind → AnalysisOverride
  | .matching _ analysis _ | .phrase _ _ analysis | .simpleQueryString _ _ analysis => analysis
  | _ => .none

/-- The name of the kind. -/
def name (kind : PredicateKind) : String :=
  match kind.usage?, kind with
  | some usage, _ => usage.name
  | none, .matchAll => "match-all"
  | none, .matchNone => "match-none"
  | none, _ => "ids"

end PredicateKind

/-- A test of fields. -/
structure Leaf where
  fields : List FieldPath
  kind : PredicateKind

/-- A predicate on documents. -/
inductive Predicate where
  | leaf (leaf : Leaf)
  | bool (operator : BoolOperator) (clauses : List Predicate)
  | not (inner : Predicate)
  /-- The inner predicate, evaluated on one instance of the object at the path. -/
  | nested (path : FieldPath) (inner : Predicate)
  /-- What an index provides under the name. -/
  | named (name : String) (params : ParamBag)
  | boosted (inner : Predicate) (boost : Float32)
  | constantScore (inner : Predicate)

namespace Predicate

/-- Whether the tree is a single leaf. -/
def isLeaf : Predicate → Bool
  | .leaf _ => true
  | _ => false

mutual

/-- The leaves, depth first. What a named node stands for is not looked into. -/
def leaves : Predicate → List Leaf
  | .leaf l => [l]
  | .bool _ clauses => leavesOf clauses
  | .not inner => inner.leaves
  | .nested _ inner => inner.leaves
  | .named .. => []
  | .boosted inner _ => inner.leaves
  | .constantScore inner => inner.leaves

/-- The leaves of several trees, one tree after the other. -/
def leavesOf : List Predicate → List Leaf
  | [] => []
  | p :: ps => p.leaves ++ leavesOf ps

end

/-- How many leaves the tree has. -/
def leafCount (p : Predicate) : Nat := p.leaves.length

end Predicate

end NestedSearch
