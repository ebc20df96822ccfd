import NestedSearch.Schema.Error
import NestedSearch.Text

/-!
# Schemas

The schema of an index: its name and its tree of fields. A definition may hold anything; a
schema is a definition that passed the check, so every name in it is a segment, no object has
two children of one name, and the analysis that a field declares makes sense for its type.
-/

namespace NestedSearch

/-- An index name and a tree of fields, as they were written down. -/
structure Definition where
  index : String
  fields : Fields
deriving BEq

/-! ## The check -/

/-- Checks what a value field declares. -/
def ValueField.check (index : String) (path : FieldPath) (f : ValueField) :
    Except SchemaFault Unit :=
  let hasAnalysis := f.analyzer.isSome || f.searchAnalyzer.isSome || f.normalizer.isSome
  let isEmptyVector : Bool := match f.type with
    | .vector dimension _ => dimension = 0
    | _ => false
  if isEmptyVector then .error (.emptyVector index path)
  else if hasAnalysis && f.type ≠ .string then .error (.analysisOfNonText index path f.type)
  else if f.analyzer.isSome && f.normalizer.isSome then
    .error (.analyzerAndNormalizer index path)
  else if f.searchAnalyzer.isSome && f.analyzer.isNone then
    .error (.searchAnalyzerAlone index path)
  else .ok ()

/-- The dotted form of a child's path, whether its name is a segment or not. -/
def childText (parent : Option FieldPath) (name : String) : String :=
  match parent with
  | some p => p.toString ++ "." ++ name
  | none => name

mutual

/-- Checks a node and all below it. -/
def Node.check (index : String) (path : FieldPath) : Node → Except SchemaError Unit
  | .value f => (f.check index path).mapError .invalid
  | .object _ _ children => checkFields index (some path) [] children

/-- Checks the fields of an object after those whose names were `seen`. -/
def checkFields (index : String) (parent : Option FieldPath) (seen : List String) :
    List (String × Node) → Except SchemaError Unit
  | [] => .ok ()
  | (name, node) :: rest =>
    match Segment.ofName name with
    | .error cause => .error (.invalidPath (childText parent name) (.segment cause))
    | .ok segment =>
      if name ∈ seen then .error (.duplicateField index (.childOf parent segment))
      else
        match node.check index (.childOf parent segment) with
        | .error e => .error e
        | .ok () => checkFields index parent (name :: seen) rest

end

/-- Checks a definition. -/
def Definition.check (d : Definition) : Except SchemaError Unit :=
  if Text.isBlank d.index then .error (.invalid .blankIndexName)
  else checkFields d.index none [] d.fields

/-- A definition that passes the check. -/
structure Schema extends Definition where
  valid : toDefinition.check = .ok ()

namespace Schema

/-- The schema of a definition. -/
def ofDefinition (d : Definition) : Except SchemaError Schema :=
  match h : d.check with
  | .ok () => .ok ⟨d, h⟩
  | .error e => .error e

end Schema

/-! ## Looking at the tree -/

/-- The field at the end of a path that starts among these fields. -/
def Fields.nodeAt? (fields : Fields) (s : Segment) : List Segment → Option Node
  | [] => fields.find? s.name
  | next :: rest =>
    match fields.find? s.name with
    | some node => Fields.nodeAt? node.children next rest
    | none => none

/-- The field at a path. -/
def Definition.node? (d : Definition) (p : FieldPath) : Option Node :=
  d.fields.nodeAt? p.head p.tail

mutual

/-- A node at this path, and all nodes below it with theirs, parents first. -/
def Node.walk (path : FieldPath) : Node → List (FieldPath × Node)
  | .value f => [(path, .value f)]
  | .object storage multiValued children =>
    (path, .object storage multiValued children) :: walkFields (some path) children

/-- All nodes of these fields. A name that is no segment is on no path. -/
def walkFields (parent : Option FieldPath) : List (String × Node) → List (FieldPath × Node)
  | [] => []
  | (name, node) :: rest =>
    match Segment.ofName? name with
    | some segment => node.walk (.childOf parent segment) ++ walkFields parent rest
    | none => walkFields parent rest

end

/-- All nodes with their paths, in the order of declaration, parents first. -/
def Definition.walk (d : Definition) : List (FieldPath × Node) := walkFields none d.fields

end NestedSearch
