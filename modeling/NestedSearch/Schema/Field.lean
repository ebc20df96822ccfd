/-!
# Fields

The fields of an index. A value field has a type, the names of what analyses its text, and
flags for what it may be used for. An object field has children; how it is stored decides
whether its instances are merged into the enclosing document or indexed as documents of their
own.
-/

namespace NestedSearch

/-- How the distance between two vectors is measured. -/
inductive DistanceMetric where
  | cosine
  | euclidean
  | dotProduct
deriving DecidableEq, Repr

namespace DistanceMetric

def name : DistanceMetric → String
  | .cosine => "cosine"
  | .euclidean => "euclidean"
  | .dotProduct => "dot_product"

end DistanceMetric

/-- The type of a value field. Dates are compared as text. -/
inductive FieldType where
  | string
  | integer
  | long
  | double
  | boolean
  | date
  | geoPoint
  | vector (dimension : Nat) (metric : DistanceMetric)
deriving DecidableEq, Repr

namespace FieldType

def isNumeric : FieldType → Bool
  | .integer | .long | .double => true
  | _ => false

/-- Whether values of the type have an order that ranges can be taken in. -/
def isOrderable : FieldType → Bool
  | .string | .date => true
  | t => t.isNumeric

/-- The type as it is named in messages. -/
def describe : FieldType → String
  | .string => "String"
  | .integer => "Integer"
  | .long => "Long"
  | .double => "Double"
  | .boolean => "Boolean"
  | .date => "Date"
  | .geoPoint => "GeoPoint"
  | .vector dimension metric => s!"Vector({dimension}, {metric.name})"

end FieldType

/-- How the instances of an object field are stored. -/
inductive Storage where
  /-- As part of the enclosing document. -/
  | flattened
  /-- As documents of their own, which predicates reach only through a scope. -/
  | nested
deriving DecidableEq, Repr

namespace Storage

def name : Storage → String
  | .flattened => "FLATTENED"
  | .nested => "NESTED"

end Storage

/-- What the index looks at to tell whether a document has a value in a field. -/
inductive ExistsStrategy where
  | docValues
  | norms
deriving DecidableEq, Repr

namespace ExistsStrategy

/-- The strategy as it is named in messages. -/
def describe : ExistsStrategy → String
  | .docValues => "docValues"
  | .norms => "norms"

end ExistsStrategy

/-- The two kinds of field. -/
inductive NodeKind where
  | value
  | object
deriving DecidableEq, Repr

namespace NodeKind

/-- The kind as it is named in messages. -/
def describe : NodeKind → String
  | .value => "value field"
  | .object => "object field"

end NodeKind

/-- What a predicate asks for in place of the analysis that the field declares. -/
inductive AnalysisOverride where
  /-- What the field declares. -/
  | none
  /-- This analyzer. -/
  | analyzer (name : String)
  /-- No analysis. -/
  | skip
deriving DecidableEq, Repr

namespace AnalysisOverride

/-- Whether the analysis that the field declares is left aside. -/
def bypasses : AnalysisOverride → Bool
  | .none => false
  | _ => true

end AnalysisOverride

/-- The analysis that query text goes through. -/
inductive QueryAnalysis where
  | analyzer (name : String)
  | normalizer (name : String)
  /-- The text as it is. -/
  | raw
deriving DecidableEq, Repr

/-- A field that holds values. -/
structure ValueField where
  type : FieldType
  analyzer : Option String
  /-- Takes the analyzer's place for query text. -/
  searchAnalyzer : Option String
  normalizer : Option String
  searchable : Bool
  sortable : Bool
  projectable : Bool
  aggregable : Bool
  multiValued : Bool
  /-- The strategy that is declared, if any. -/
  existsStrategy : Option ExistsStrategy
deriving DecidableEq, Repr

namespace ValueField

/-- A searchable field of this type that declares nothing else. -/
def ofType (type : FieldType) : ValueField where
  type := type
  analyzer := none
  searchAnalyzer := none
  normalizer := none
  searchable := true
  sortable := false
  projectable := false
  aggregable := false
  multiValued := false
  existsStrategy := none

/-- A full-text field. -/
def text (analyzer : String) : ValueField := { ofType .string with analyzer := some analyzer }

/-- A string field without analysis. -/
def keyword : ValueField := ofType .string

/-- Whether the field holds text that is taken apart into terms. -/
def isAnalyzed (f : ValueField) : Bool := f.type = .string && f.analyzer.isSome

/-- The strategy that is declared; otherwise norms for analysed text and doc values for all
    else. -/
def effectiveExistsStrategy (f : ValueField) : ExistsStrategy :=
  match f.existsStrategy with
  | some strategy => strategy
  | none => if f.isAnalyzed then .norms else .docValues

/-- The analyzer for query text when the predicate asks for none. -/
def effectiveSearchAnalyzer (f : ValueField) : Option String :=
  match f.searchAnalyzer with
  | some name => some name
  | none => f.analyzer

/-- The analysis for query text: what the predicate asks for, then the search analyzer, the
    analyzer, the normalizer. -/
def queryAnalysis (f : ValueField) : AnalysisOverride → QueryAnalysis
  | .skip => .raw
  | .analyzer name => .analyzer name
  | .none =>
    match f.effectiveSearchAnalyzer, f.normalizer with
    | some name, _ => .analyzer name
    | none, some name => .normalizer name
    | none, none => .raw

end ValueField

/-- A field with all that is below it. The children of an object keep the order in which they
    are declared. -/
inductive Node where
  | value (field : ValueField)
  | object (storage : Storage) (multiValued : Bool) (children : List (String × Node))
deriving BEq, Repr

/-- The named fields of an object or of a whole document. -/
abbrev Fields := List (String × Node)

/-- The first field of this name. -/
def Fields.find? (fields : Fields) (name : String) : Option Node := fields.lookup name

namespace Node

def kind : Node → NodeKind
  | .value _ => .value
  | .object .. => .object

def isMultiValued : Node → Bool
  | .value f => f.multiValued
  | .object _ multiValued _ => multiValued

/-- Whether the node is an object field stored as documents of its own. -/
def isNested : Node → Bool
  | .object .nested _ _ => true
  | _ => false

/-- The value field that the node is. -/
def value? : Node → Option ValueField
  | .value f => some f
  | .object .. => none

/-- The children of a node: a value field has none. -/
def children : Node → Fields
  | .value _ => []
  | .object _ _ children => children

end Node

end NestedSearch
