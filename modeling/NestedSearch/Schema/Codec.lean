import NestedSearch.Json.Decode
import NestedSearch.Json.Reader
import NestedSearch.Json.Writer
import NestedSearch.Compatibility

/-!
# Schemas in JSON

How schemas, and what is said about them, are written in JSON and read back. A schema names its
index and maps field names to nodes; the members of that map are the fields in their order, and
repeated names are kept for the check to refuse.
-/

namespace NestedSearch

open Json (Origin Record)

/-! ## Names -/

namespace DistanceMetric

def table : List (String × DistanceMetric) :=
  [("cosine", .cosine), ("euclidean", .euclidean), ("dot_product", .dotProduct)]

def ofJson? : Origin → Json → Option DistanceMetric := Json.oneOf? table

def toJson (m : DistanceMetric) : Json := .ofString m.name

end DistanceMetric

namespace Storage

def table : List (String × Storage) := [("FLATTENED", .flattened), ("NESTED", .nested)]

def ofJson? : Origin → Json → Option Storage := Json.oneOf? table

def toJson (s : Storage) : Json := .ofString s.name

end Storage

namespace ExistsStrategy

def table : List (String × ExistsStrategy) := [("doc_values", .docValues), ("norms", .norms)]

def ofJson? : Origin → Json → Option ExistsStrategy := Json.oneOf? table

def toJson : ExistsStrategy → Json
  | .docValues => .ofString "doc_values"
  | .norms => .ofString "norms"

end ExistsStrategy

namespace NodeKind

def table : List (String × NodeKind) := [("value", .value), ("object", .object)]

def ofJson? : Origin → Json → Option NodeKind := Json.oneOf? table

def toJson : NodeKind → Json
  | .value => .ofString "value"
  | .object => .ofString "object"

end NodeKind

namespace Usage

def ofJson? : Origin → Json → Option Usage := Json.oneOf? (all.map fun u => (u.name, u))

def toJson (u : Usage) : Json := .ofString u.name

end Usage

namespace Attribute

def ofJson? : Origin → Json → Option Attribute := Json.oneOf? (all.map fun a => (a.name, a))

def toJson (a : Attribute) : Json := .ofString a.name

end Attribute

/-! ## Analysis -/

namespace AnalysisOverride

def ofJson? (origin : Origin) (j : Json) : Option AnalysisOverride := do
  let (name, content) ← j.alternative?
  match name with
  | "none" => if Json.isNoContent origin content then some .none else .none
  | "analyzer" => do return .analyzer (← (← content).text?)
  | "skip" => if Json.isNoContent origin content then some .skip else .none
  | _ => .none

def toJson : AnalysisOverride → Json
  | .none => .ofString "none"
  | .analyzer name => .ofMembers [("analyzer", .ofString name)]
  | .skip => .ofString "skip"

end AnalysisOverride

namespace QueryAnalysis

def ofJson? (origin : Origin) (j : Json) : Option QueryAnalysis := do
  let (name, content) ← j.alternative?
  match name with
  | "analyzer" => do return .analyzer (← (← content).text?)
  | "normalizer" => do return .normalizer (← (← content).text?)
  | "raw" => if Json.isNoContent origin content then some .raw else .none
  | _ => .none

def toJson : QueryAnalysis → Json
  | .analyzer name => .ofMembers [("analyzer", .ofString name)]
  | .normalizer name => .ofMembers [("normalizer", .ofString name)]
  | .raw => .ofString "raw"

end QueryAnalysis

/-! ## Fields -/

namespace FieldType

/-- The names of the types; the cases of the tag are numbered in this order. -/
def cases : List String :=
  ["string", "integer", "long", "double", "boolean", "date", "geo_point", "vector"]

/-- The types that are nothing but their name. -/
def plain : List (String × FieldType) :=
  [("string", .string), ("integer", .integer), ("long", .long), ("double", .double),
    ("boolean", .boolean), ("date", .date), ("geo_point", .geoPoint)]

def ofJson? (origin : Origin) (j : Json) : Option FieldType := do
  let (name, content) ← Json.tagged? "type" cases origin j
  match plain.lookup name with
  | some t => if Json.isNoRest content then some t else none
  | none => do
    let r ← Record.ofJson? ["dimension", "metric"] content
    let dimension ← r.required? "dimension" Json.nat64?
    let metric ← r.required? "metric" (DistanceMetric.ofJson? .copy)
    return .vector dimension metric

/-- The members that write the type. -/
def members : FieldType → List (String × Json)
  | .string => [("type", .ofString "string")]
  | .integer => [("type", .ofString "integer")]
  | .long => [("type", .ofString "long")]
  | .double => [("type", .ofString "double")]
  | .boolean => [("type", .ofString "boolean")]
  | .date => [("type", .ofString "date")]
  | .geoPoint => [("type", .ofString "geo_point")]
  | .vector dimension metric =>
    [("type", .ofString "vector"), ("dimension", .ofInt dimension), ("metric", metric.toJson)]

def toJson (t : FieldType) : Json := .ofMembers t.members

end FieldType

namespace ValueField

/-- The members of a value field besides those of its type. -/
def fieldNames : List String :=
  ["analyzer", "search_analyzer", "normalizer", "searchable", "sortable", "projectable",
    "aggregable", "multi_valued", "exists_strategy"]

def ofJson? (origin : Origin) (j : Json) : Option ValueField := do
  let (r, others) ← Json.flattened? fieldNames j
  return {
    analyzer := ← r.optional? "analyzer" Json.text?
    searchAnalyzer := ← r.optional? "search_analyzer" Json.text?
    normalizer := ← r.optional? "normalizer" Json.text?
    searchable := ← r.defaulted? "searchable" true Json.bool?
    sortable := ← r.defaulted? "sortable" false Json.bool?
    projectable := ← r.defaulted? "projectable" false Json.bool?
    aggregable := ← r.defaulted? "aggregable" false Json.bool?
    multiValued := ← r.defaulted? "multi_valued" false Json.bool?
    existsStrategy := ← r.optional? "exists_strategy" (ExistsStrategy.ofJson? origin)
    type := ← FieldType.ofJson? .copy others }

/-- A member for a name, if there is one. -/
def nameMember (key : String) (name : Option String) : List (String × Json) :=
  match name with
  | some name => [(key, .ofString name)]
  | none => []

/-- The members that write the field. -/
def members (f : ValueField) : List (String × Json) :=
  f.type.members ++ nameMember "analyzer" f.analyzer ++
    nameMember "search_analyzer" f.searchAnalyzer ++ nameMember "normalizer" f.normalizer ++
    [("searchable", .bool f.searchable), ("sortable", .bool f.sortable),
      ("projectable", .bool f.projectable), ("aggregable", .bool f.aggregable),
      ("multi_valued", .bool f.multiValued)] ++
    match f.existsStrategy with
    | some strategy => [("exists_strategy", strategy.toJson)]
    | none => []

def toJson (f : ValueField) : Json := .ofMembers f.members

end ValueField

namespace Fields

/-- A map of names to nodes, with a decoder for the nodes. -/
def ofJson? (node : Json → Option Node) (j : Json) : Option Fields := do
  (← j.members?).mapM fun (name, value) => do return (name, ← node value)

end Fields

namespace Node

/-- The members of an object field. -/
def objectNames : List String := ["structure", "multi_valued", "children"]

/-- Decodes an object field, with a decoder for its children. -/
def objectOfJson? (origin : Origin) (child : Json → Option Node) (j : Json) : Option Node := do
  let r ← Record.ofJson? objectNames j
  let storage ← r.required? "structure" (Storage.ofJson? origin)
  let multiValued ← r.defaulted? "multi_valued" false Json.bool?
  let children ← r.defaulted? "children" [] (Fields.ofJson? child)
  return .object storage multiValued children

/-- Decodes a node that nests at most this deeply. -/
def decode : (depth : Nat) → Origin → Json → Option Node
  | 0, _, _ => none
  | depth + 1, origin, j => do
    let (name, content) ← Json.tagged? "kind" ["value", "object"] origin j
    if name = "value" then (ValueField.ofJson? .copy content).map .value
    else objectOfJson? .copy (decode depth .copy) content

def ofJson? (origin : Origin) (j : Json) : Option Node := decode j.nesting origin j

mutual

def toJson : Node → Json
  | .value f => .ofMembers (("kind", .ofString "value") :: f.members)
  | .object storage multiValued children =>
    .ofMembers [("kind", .ofString "object"), ("structure", storage.toJson),
      ("multi_valued", .bool multiValued), ("children", .obj (membersOf children))]

/-- The members of a map of names to nodes. -/
def membersOf : List (String × Node) → List (Option String × Json)
  | [] => []
  | (name, node) :: rest => (some name, node.toJson) :: membersOf rest

end

/-- An object field without the mark that it is one. -/
def objectToJson (storage : Storage) (multiValued : Bool) (children : Fields) : Json :=
  .ofMembers [("structure", storage.toJson), ("multi_valued", .bool multiValued),
    ("children", .obj (membersOf children))]

end Node

/-! ## Schemas -/

namespace Definition

def ofJson? (j : Json) : Option Definition := do
  let r ← Record.ofJson? ["index", "fields"] j
  let index ← r.required? "index" Json.text?
  let fields ← r.required? "fields" (Fields.ofJson? (Node.ofJson? .text))
  return ⟨index, fields⟩

def toJson (d : Definition) : Json :=
  .ofMembers [("index", .ofString d.index), ("fields", .obj (Node.membersOf d.fields))]

/-- The definition as a text for a person to read. -/
def render (d : Definition) : String := d.toJson.pretty

end Definition

namespace Schema

/-- The schema that a JSON value defines. -/
def ofJson (j : Json) : Except SchemaError Schema :=
  match Definition.ofJson? j with
  | some d => ofDefinition d
  | none => .error .serialization

/-- The schema that a text defines. -/
def parse (text : String) : Except SchemaError Schema :=
  match Json.parse? Json.nestingLimit text with
  | some j => ofJson j
  | none => .error .serialization

end Schema

/-! ## Scopes and compatibility -/

namespace NestingScope

def ofJson? (j : Json) : Option NestingScope := do
  let r ← Record.ofJson? ["path", "structure"] j
  return ⟨← r.required? "path" Json.path?, ← r.required? "structure" (Storage.ofJson? .text)⟩

def toJson (s : NestingScope) : Json :=
  .ofMembers [("path", .ofPath s.path), ("structure", s.storage.toJson)]

end NestingScope

namespace NestingChain

def ofJson? (j : Json) : Option NestingChain := (j.list? NestingScope.ofJson?).map NestingChain.mk

def toJson (c : NestingChain) : Json := .arr (c.scopes.map NestingScope.toJson)

end NestingChain

namespace CompatibilityRequest

def ofJson? (j : Json) : Option CompatibilityRequest := do
  let r ← Record.ofJson? ["usage", "analysis"] j
  return ⟨← r.required? "usage" (Usage.ofJson? .text),
    ← r.defaulted? "analysis" .none (AnalysisOverride.ofJson? .text)⟩

def toJson (r : CompatibilityRequest) : Json :=
  .ofMembers [("usage", r.usage.toJson), ("analysis", r.analysis.toJson)]

end CompatibilityRequest

namespace ConflictReport

def ofJson? (origin : Origin) (j : Json) : Option ConflictReport := do
  let r ← Record.ofJson?
    ["field", "usage", "attribute", "left", "right", "left_index", "right_index"] j
  return ⟨← r.required? "field" Json.path?, ← r.required? "usage" (Usage.ofJson? origin),
    ← r.required? "attribute" (Attribute.ofJson? origin), ← r.required? "left" Json.text?,
    ← r.required? "right" Json.text?, ← r.required? "left_index" Json.text?,
    ← r.required? "right_index" Json.text?⟩

/-- The members that write the report. -/
def members (r : ConflictReport) : List (String × Json) :=
  [("field", .ofPath r.field), ("usage", r.usage.toJson), ("attribute", r.attr.toJson),
    ("left", .ofString r.left), ("right", .ofString r.right),
    ("left_index", .ofString r.leftIndex), ("right_index", .ofString r.rightIndex)]

def toJson (r : ConflictReport) : Json := .ofMembers r.members

end ConflictReport

namespace Verdict

def ofJson? (j : Json) : Option Verdict := do
  let (name, content) ←
    Json.tagged? "verdict" ["compatible", "compatible_ignoring", "conflicting"] .text j
  match name with
  | "compatible" => if Json.isNoRest content then some .compatible else none
  | "compatible_ignoring" => do
    let r ← Record.ofJson? ["ignored"] content
    return .compatibleIgnoring
      (← r.required? "ignored" (Json.list? (Attribute.ofJson? .copy)))
  | _ => (ConflictReport.ofJson? .copy content).map .conflicting

def toJson : Verdict → Json
  | .compatible => .ofMembers [("verdict", .ofString "compatible")]
  | .compatibleIgnoring ignored =>
    .ofMembers [("verdict", .ofString "compatible_ignoring"),
      ("ignored", .arr (ignored.map Attribute.toJson))]
  | .conflicting report =>
    .ofMembers (("verdict", .ofString "conflicting") :: report.members)

end Verdict

end NestedSearch
