import NestedSearch.Error
import NestedSearch.Schema.Codec

/-!
# Predicates in JSON
-/

namespace NestedSearch

open Json (Origin Record)

namespace BoolOperator

def table : List (String × BoolOperator) := [("and", .and), ("or", .or)]

def ofJson? : Origin → Json → Option BoolOperator := Json.oneOf? table

def toJson : BoolOperator → Json
  | .and => .ofString "and"
  | .or => .ofString "or"

end BoolOperator

namespace GeoPoint

def ofJson? (j : Json) : Option GeoPoint := do
  let r ← Record.ofJson? ["lat", "lon"] j
  return ⟨← r.required? "lat" Json.float?, ← r.required? "lon" Json.float?⟩

def toJson (p : GeoPoint) : Json :=
  .ofMembers [("lat", ParamValue.floatToJson p.lat), ("lon", ParamValue.floatToJson p.lon)]

end GeoPoint

namespace RangeBound

def ofJson? (origin : Origin) (j : Json) : Option RangeBound := do
  let r ← Record.ofJson? ["value", "inclusive"] j
  return ⟨← r.required? "value" (ParamValue.ofJson? origin),
    ← r.required? "inclusive" Json.bool?⟩

def toJson (b : RangeBound) : Json :=
  .ofMembers [("value", b.value.toJson), ("inclusive", .bool b.inclusive)]

end RangeBound

namespace PredicateKind

/-- The names of the kinds; the cases of the tag are numbered in this order. -/
def cases : List String :=
  ["match", "phrase", "wildcard", "regexp", "simple_query_string", "range", "exists",
    "spatial_within_circle", "spatial_within_polygon", "spatial_within_bounding_box", "knn",
    "match_all", "match_none", "ids"]

/-- Decodes what remains of a predicate of the named kind. -/
def ofContent? (name : String) (j : Json) : Option PredicateKind :=
  let record (names : List String) := Record.ofJson? names j
  let analysis (r : Record) := r.defaulted? "analysis" .none (AnalysisOverride.ofJson? .copy)
  match name with
  | "match" => do
    let r ← record ["value", "analysis", "fuzziness"]
    return .matching (← r.required? "value" (ParamValue.ofJson? .copy)) (← analysis r)
      (← r.defaulted? "fuzziness" 0 Json.nat32?)
  | "phrase" => do
    let r ← record ["phrase", "slop", "analysis"]
    return .phrase (← r.required? "phrase" Json.text?) (← r.defaulted? "slop" 0 Json.nat32?)
      (← analysis r)
  | "wildcard" => do
    let r ← record ["pattern"]
    return .wildcard (← r.required? "pattern" Json.text?)
  | "regexp" => do
    let r ← record ["pattern"]
    return .regexp (← r.required? "pattern" Json.text?)
  | "simple_query_string" => do
    let r ← record ["query", "default_operator", "analysis"]
    return .simpleQueryString (← r.required? "query" Json.text?)
      (← r.required? "default_operator" (BoolOperator.ofJson? .copy)) (← analysis r)
  | "range" => do
    let r ← record ["lower", "upper"]
    return .range (← r.optional? "lower" (RangeBound.ofJson? .copy))
      (← r.optional? "upper" (RangeBound.ofJson? .copy))
  | "spatial_within_circle" => do
    let r ← record ["center", "radius_meters"]
    return .withinCircle (← r.required? "center" GeoPoint.ofJson?)
      (← r.required? "radius_meters" Json.float?)
  | "spatial_within_polygon" => do
    let r ← record ["points"]
    return .withinPolygon (← r.required? "points" (Json.list? GeoPoint.ofJson?))
  | "spatial_within_bounding_box" => do
    let r ← record ["top_left", "bottom_right"]
    return .withinBoundingBox (← r.required? "top_left" GeoPoint.ofJson?)
      (← r.required? "bottom_right" GeoPoint.ofJson?)
  | "knn" => do
    let r ← record ["vector", "k"]
    return .knn (← r.required? "vector" (Json.list? Json.float32?))
      (← r.required? "k" Json.nat64?)
  | "ids" => do
    let r ← record ["ids"]
    return .ids (← r.required? "ids" (Json.list? Json.text?))
  | "exists" => if Json.isNoRest j then some .exists else none
  | "match_all" => if Json.isNoRest j then some .matchAll else none
  | "match_none" => if Json.isNoRest j then some .matchNone else none
  | _ => none

def ofJson? (origin : Origin) (j : Json) : Option PredicateKind := do
  let (name, content) ← Json.tagged? "kind" cases origin j
  ofContent? name content

/-- The members that write the kind and what belongs to it. -/
def members : PredicateKind → List (String × Json)
  | .matching value analysis fuzziness =>
    [("kind", .ofString "match"), ("value", value.toJson), ("analysis", analysis.toJson),
      ("fuzziness", .ofInt fuzziness)]
  | .phrase text slop analysis =>
    [("kind", .ofString "phrase"), ("phrase", .ofString text), ("slop", .ofInt slop),
      ("analysis", analysis.toJson)]
  | .wildcard pattern => [("kind", .ofString "wildcard"), ("pattern", .ofString pattern)]
  | .regexp pattern => [("kind", .ofString "regexp"), ("pattern", .ofString pattern)]
  | .simpleQueryString query operator analysis =>
    [("kind", .ofString "simple_query_string"), ("query", .ofString query),
      ("default_operator", operator.toJson), ("analysis", analysis.toJson)]
  | .range lower upper =>
    [("kind", .ofString "range"), ("lower", .ofOption RangeBound.toJson lower),
      ("upper", .ofOption RangeBound.toJson upper)]
  | .exists => [("kind", .ofString "exists")]
  | .withinCircle center radiusMeters =>
    [("kind", .ofString "spatial_within_circle"), ("center", center.toJson),
      ("radius_meters", ParamValue.floatToJson radiusMeters)]
  | .withinPolygon points =>
    [("kind", .ofString "spatial_within_polygon"), ("points", .arr (points.map GeoPoint.toJson))]
  | .withinBoundingBox topLeft bottomRight =>
    [("kind", .ofString "spatial_within_bounding_box"), ("top_left", topLeft.toJson),
      ("bottom_right", bottomRight.toJson)]
  | .knn vector k =>
    [("kind", .ofString "knn"), ("vector", .arr (vector.map ParamValue.float32ToJson)),
      ("k", .ofInt k)]
  | .matchAll => [("kind", .ofString "match_all")]
  | .matchNone => [("kind", .ofString "match_none")]
  | .ids documents =>
    [("kind", .ofString "ids"), ("ids", .arr (documents.map Json.ofString))]

def toJson (kind : PredicateKind) : Json := .ofMembers kind.members

end PredicateKind

namespace Leaf

def ofJson? (j : Json) : Option Leaf := do
  let (r, others) ← Json.flattened? ["fields"] j
  let fields ← r.defaulted? "fields" [] (Json.list? Json.path?)
  return ⟨fields, ← PredicateKind.ofJson? .copy others⟩

def toJson (l : Leaf) : Json :=
  let fields := if l.fields.isEmpty then [] else [("fields", .arr (l.fields.map Json.ofPath))]
  .ofMembers (fields ++ l.kind.members)

end Leaf

namespace Predicate

/-- Decodes a predicate that nests at most this deeply. -/
def decode : (depth : Nat) → Json → Option Predicate
  | 0, _ => none
  | depth + 1, j => do
    let (name, content) ← j.alternative?
    let content ← content
    match name with
    | "leaf" => (Leaf.ofJson? content).map .leaf
    | "bool" => do
      let r ← Record.ofJson? ["operator", "clauses"] content
      let operator ← r.required? "operator" (BoolOperator.ofJson? .text)
      let clauses ← r.required? "clauses" (Json.list? (decode depth))
      return .bool operator clauses
    | "not" => (decode depth content).map .not
    | "nested" => do
      let r ← Record.ofJson? ["path", "inner"] content
      let path ← r.required? "path" Json.path?
      let inner ← r.required? "inner" (decode depth)
      return .nested path inner
    | "named" => do
      let r ← Record.ofJson? ["name", "params"] content
      return .named (← r.required? "name" Json.text?)
        (← r.defaulted? "params" NameMap.empty ParamBag.ofJson?)
    | "boosted" => do
      let r ← Record.ofJson? ["inner", "boost"] content
      let inner ← r.required? "inner" (decode depth)
      let boost ← r.required? "boost" Json.float32?
      return .boosted inner boost
    | "constant_score" => (decode depth content).map .constantScore
    | _ => none

def ofJson? (j : Json) : Option Predicate := decode j.nesting j

mutual

def toJson : Predicate → Json
  | .leaf l => .ofMembers [("leaf", l.toJson)]
  | .bool operator clauses =>
    .ofMembers [("bool", .ofMembers
      [("operator", operator.toJson), ("clauses", .arr (toJsonList clauses))])]
  | .not inner => .ofMembers [("not", inner.toJson)]
  | .nested path inner =>
    .ofMembers [("nested", .ofMembers [("path", .ofPath path), ("inner", inner.toJson)])]
  | .named name params =>
    .ofMembers [("named", .ofMembers [("name", .ofString name), ("params", params.toJson)])]
  | .boosted inner boost =>
    .ofMembers [("boosted", .ofMembers
      [("inner", inner.toJson), ("boost", ParamValue.float32ToJson boost)])]
  | .constantScore inner => .ofMembers [("constant_score", inner.toJson)]

def toJsonList : List Predicate → List Json
  | [] => []
  | p :: ps => p.toJson :: toJsonList ps

end

/-- The predicate that a text writes. -/
def parse (text : String) : Except QueryError Predicate :=
  match (Json.parse? Json.nestingLimit text).bind ofJson? with
  | some p => .ok p
  | none => .error .serialization

end Predicate

end NestedSearch
