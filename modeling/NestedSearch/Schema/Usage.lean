import NestedSearch.Schema.Error

/-!
# Usages

The ways in which a query can use a field: one for each kind of predicate, and sorting,
projection and aggregation. What a field can be used for follows from its type, its analysis
and its flags.
-/

namespace NestedSearch

/-- A way to use a field. -/
inductive Usage where
  | matching
  | range
  | phrase
  | exists
  | wildcard
  | regexp
  | simpleQueryString
  | withinCircle
  | withinPolygon
  | withinBoundingBox
  | knn
  | nested
  | named
  | sort
  | projection
  | termsAggregation
  | rangeAggregation
deriving DecidableEq, Repr

namespace Usage

/-- All usages, in the order in which they are listed. -/
def all : List Usage :=
  [.matching, .range, .phrase, .exists, .wildcard, .regexp, .simpleQueryString, .withinCircle,
    .withinPolygon, .withinBoundingBox, .knn, .nested, .named, .sort, .projection,
    .termsAggregation, .rangeAggregation]

def name : Usage → String
  | .matching => "predicate:match"
  | .range => "predicate:range"
  | .phrase => "predicate:phrase"
  | .exists => "predicate:exists"
  | .wildcard => "predicate:wildcard"
  | .regexp => "predicate:regexp"
  | .simpleQueryString => "predicate:simple-query-string"
  | .withinCircle => "predicate:spatial:within-circle"
  | .withinPolygon => "predicate:spatial:within-polygon"
  | .withinBoundingBox => "predicate:spatial:within-bounding-box"
  | .knn => "predicate:knn"
  | .nested => "predicate:nested"
  | .named => "predicate:named"
  | .sort => "sort:field"
  | .projection => "projection:field"
  | .termsAggregation => "aggregation:terms"
  | .rangeAggregation => "aggregation:range"

/-- The usage of this name. -/
def ofName? (name : String) : Option Usage := all.find? fun u => u.name = name

/-- The usage of this name, or the error that there is none. -/
def ofName (name : String) : Except SchemaError Usage :=
  match ofName? name with
  | some u => .ok u
  | none => .error (.invalid (.unknownUsage name))

/-- Whether the usage is a predicate on the field. -/
def isPredicate : Usage → Bool
  | .sort | .projection | .termsAggregation | .rangeAggregation => false
  | _ => true

/-- Whether the predicate's text goes through the analysis of the field. -/
def isTextual : Usage → Bool
  | .matching | .phrase | .wildcard | .regexp | .simpleQueryString => true
  | _ => false

/-- Whether the predicate is about places. -/
def isSpatial : Usage → Bool
  | .withinCircle | .withinPolygon | .withinBoundingBox => true
  | _ => false

end Usage

/-- Whether fields of this type can be used this way at all. -/
def FieldType.allows (t : FieldType) : Usage → Bool
  | .exists | .sort | .projection | .termsAggregation => true
  | .rangeAggregation => t.isOrderable
  | .matching | .range =>
    match t with
    | .geoPoint | .vector .. => false
    | _ => true
  | .simpleQueryString =>
    match t with
    | .string | .integer | .long | .double | .date => true
    | _ => false
  | .phrase | .wildcard | .regexp => t = .string
  | .withinCircle | .withinPolygon | .withinBoundingBox => t = .geoPoint
  | .knn =>
    match t with
    | .vector .. => true
    | _ => false
  | .nested | .named => false

/-- Whether the field can be used this way. Phrases need the positions of terms, so analysed
    text; a range over terms means nothing. -/
def ValueField.supports (f : ValueField) (u : Usage) : Bool :=
  f.type.allows u &&
    match u with
    | .phrase => f.searchable && f.isAnalyzed
    | .range => f.searchable && !f.isAnalyzed
    | .sort => f.sortable
    | .projection => f.projectable
    | .termsAggregation | .rangeAggregation => f.aggregable
    | _ => f.searchable

/-- Whether the node can be used this way. -/
def Node.supports (node : Node) (u : Usage) : Bool :=
  match node with
  | .value f => f.supports u
  | .object .. =>
    match u with
    | .exists | .named => true
    | .nested => node.isNested
    | _ => false

/-- What fields of this type can be used for at all. -/
def FieldType.usages (t : FieldType) : List Usage := Usage.all.filter t.allows

/-- What the node can be used for. -/
def Node.usages (node : Node) : List Usage := Usage.all.filter node.supports

end NestedSearch
