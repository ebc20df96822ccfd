import NestedSearch.Schema.Resolution
import NestedSearch.Schema.Usage

/-!
# Compatibility across indexes

A query over several indexes uses a field in all of them alike, so the field has to be
configured alike, as far as the usage depends on it. Every schema is compared with the first
one that has the field; a schema without it takes no part.

| Usage                                    | What must agree                            |
|------------------------------------------|--------------------------------------------|
| exists                                   | the exists strategy                        |
| match, phrase, wildcard, regexp, simple  | field type, search analyzer, normalizer    |
| range, spatial, knn                      | field type                                 |
| sort, projection, aggregation            | field type and the flag of the usage       |
| any usage of an object                   | storage                                    |
| any usage                                | the nested objects on the path             |
-/

namespace NestedSearch

/-- Something about a field that can differ between two indexes. -/
inductive Attribute where
  | nodeKind
  | fieldType
  | analyzer
  | searchAnalyzer
  | normalizer
  | existsStrategy
  | sortable
  | projectable
  | aggregable
  | multiValued
  | storage
  | nestedPathHierarchy
  | namedPredicate
deriving DecidableEq, Repr

namespace Attribute

/-- All attributes, in the order in which they are listed. -/
def all : List Attribute :=
  [.nodeKind, .fieldType, .analyzer, .searchAnalyzer, .normalizer, .existsStrategy, .sortable,
    .projectable, .aggregable, .multiValued, .storage, .nestedPathHierarchy, .namedPredicate]

def name : Attribute → String
  | .nodeKind => "nodeKind"
  | .fieldType => "fieldType"
  | .analyzer => "analyzer"
  | .searchAnalyzer => "searchAnalyzer"
  | .normalizer => "normalizer"
  | .existsStrategy => "existsStrategy"
  | .sortable => "sortable"
  | .projectable => "projectable"
  | .aggregable => "aggregable"
  | .multiValued => "multiValued"
  | .storage => "structure"
  | .nestedPathHierarchy => "nestedPathHierarchy"
  | .namedPredicate => "namedPredicate"

end Attribute

/-- What a field is about to be used for. -/
structure CompatibilityRequest where
  usage : Usage
  /-- The analysis that the predicate asks for; only textual usages look at it. -/
  analysis : AnalysisOverride
deriving DecidableEq

/-- An attribute that the usage depends on and that differs between two indexes. -/
structure ConflictReport where
  field : FieldPath
  usage : Usage
  attr : Attribute
  left : String
  right : String
  leftIndex : String
  rightIndex : String
deriving DecidableEq

namespace ConflictReport

def message (r : ConflictReport) : String :=
  s!"Inconsistent configuration for field '{r.field}' across multiple indexes: " ++
  s!"Attribute '{r.attr.name}' differs: '{r.left}' vs. '{r.right}'. " ++
  s!"Context: indexes ['{r.leftIndex}', '{r.rightIndex}'], usage '{r.usage.name}'"

end ConflictReport

/-- The outcome of comparing a field across indexes. -/
inductive Verdict where
  | compatible
  /-- Only attributes that the usage does not depend on differ. -/
  | compatibleIgnoring (ignored : List Attribute)
  | conflicting (report : ConflictReport)
deriving DecidableEq

namespace Verdict

/-- The conflict, if there is one. -/
def conflict? : Verdict → Option ConflictReport
  | .conflicting report => some report
  | _ => none

def isConflicting (v : Verdict) : Bool := v.conflict?.isSome

end Verdict

namespace Compatibility

/-- An attribute with its two values as they are shown. -/
structure Difference where
  attr : Attribute
  left : String
  right : String
deriving DecidableEq

/-- How an absent name is shown. -/
def absent : String := "<none>"

/-- A name that may be absent, as it is shown. -/
def shown (name : Option String) : String := name.getD absent

/-- A flag as it is shown. -/
def shownFlag (flag : Bool) : String := if flag then "true" else "false"

/-- The attributes of value fields besides the analysis that a usage depends on. -/
def relevant (request : CompatibilityRequest) : List Attribute :=
  match request.usage with
  | .exists => [.existsStrategy]
  | .matching | .phrase | .wildcard | .regexp | .simpleQueryString =>
    if request.analysis.bypasses then [.fieldType] else [.fieldType, .normalizer]
  | .range | .knn | .withinCircle | .withinPolygon | .withinBoundingBox => [.fieldType]
  | .sort => [.fieldType, .sortable]
  | .projection => [.fieldType, .projectable]
  | .termsAggregation | .rangeAggregation => [.fieldType, .aggregable]
  | .nested | .named => []

/-- The attributes in which two value fields differ as they are shown. -/
def valueDifferences (l r : ValueField) : List Difference :=
  [⟨.fieldType, l.type.describe, r.type.describe⟩,
    ⟨.analyzer, shown l.analyzer, shown r.analyzer⟩,
    ⟨.searchAnalyzer, shown l.searchAnalyzer, shown r.searchAnalyzer⟩,
    ⟨.normalizer, shown l.normalizer, shown r.normalizer⟩,
    ⟨.existsStrategy, l.effectiveExistsStrategy.describe, r.effectiveExistsStrategy.describe⟩,
    ⟨.sortable, shownFlag l.sortable, shownFlag r.sortable⟩,
    ⟨.projectable, shownFlag l.projectable, shownFlag r.projectable⟩,
    ⟨.aggregable, shownFlag l.aggregable, shownFlag r.aggregable⟩,
    ⟨.multiValued, shownFlag l.multiValued, shownFlag r.multiValued⟩].filter
    fun d => d.left ≠ d.right

/-- The difference between the analyzers that query text goes through, for usages that analyse
    it as the field declares. -/
def analysisConflict? (request : CompatibilityRequest) (l r : ValueField) : Option Difference :=
  if !request.usage.isTextual || request.analysis.bypasses then none
  else if l.effectiveSearchAnalyzer = r.effectiveSearchAnalyzer then none
  else
    some ⟨if l.searchAnalyzer.isSome || r.searchAnalyzer.isSome then .searchAnalyzer
      else .analyzer, shown l.effectiveSearchAnalyzer, shown r.effectiveSearchAnalyzer⟩

/-- The first difference that matters is a conflict; without one, the attributes that differ. -/
def settle (matters : Attribute → Bool) (differences : List Difference) :
    Except Difference (List Attribute) :=
  match differences.find? fun d => matters d.attr with
  | some d => .error d
  | none => .ok (differences.map Difference.attr)

/-- Compares where the path leads in two indexes: either a conflict, or the attributes that
    differ without mattering. -/
def compare (request : CompatibilityRequest) (l r : Resolution) :
    Except Difference (List Attribute) :=
  let hierarchy : List Difference :=
    if l.chain = r.chain then []
    else [⟨.nestedPathHierarchy, l.chain.describe, r.chain.describe⟩]
  match l.node, r.node with
  | .value lf, .value rf =>
    match analysisConflict? request lf rf with
    | some d => .error d
    | none =>
      settle (fun a => a = .nestedPathHierarchy || (relevant request).contains a)
        (hierarchy ++ valueDifferences lf rf)
  | .object ls lm _, .object rs rm _ =>
    if ls ≠ rs then .error ⟨.storage, ls.name, rs.name⟩
    else
      settle (fun a => a = .nestedPathHierarchy)
        (hierarchy ++ if lm = rm then [] else [⟨.multiValued, shownFlag lm, shownFlag rm⟩])
  | ln, rn => .error ⟨.nodeKind, ln.kind.describe, rn.kind.describe⟩

/-- How an index takes part in the comparison. -/
inductive Presence where
  | found (resolution : Resolution)
  /-- The path goes on below a value field. -/
  | blocked (index : String) (error : SchemaError)

namespace Presence

def index : Presence → String
  | .found r => r.index
  | .blocked index _ => index

/-- The resolution, where the path leads to a field. -/
def found? : Presence → Option Resolution
  | .found r => some r
  | .blocked .. => none

end Presence

/-- How each schema that does not lack the field takes part, and the first of the errors of those
    that do. -/
def presences (path : FieldPath) : List Definition → List Presence × Option SchemaError
  | [] => ([], none)
  | d :: ds =>
    let (present, absence) := presences path ds
    match d.resolve path with
    | .ok r => (.found r :: present, absence)
    | .error e =>
      if e.isUnknownField then (present, some e) else (.blocked d.index e :: present, absence)

/-- Compares two indexes that take part. -/
def comparePresences (request : CompatibilityRequest) :
    Presence → Presence → Except Difference (List Attribute)
  | .found l, .found r => compare request l r
  | .blocked .., .blocked .. => .ok []
  | .blocked .., .found _ =>
    .error ⟨.nodeKind, NodeKind.value.describe, NodeKind.object.describe⟩
  | .found _, .blocked .. =>
    .error ⟨.nodeKind, NodeKind.object.describe, NodeKind.value.describe⟩

/-- Compares the others with the baseline, one after the other. -/
def compareAll (path : FieldPath) (request : CompatibilityRequest) (baseline : Presence) :
    List Presence → Except ConflictReport (List Attribute)
  | [] => .ok []
  | other :: others =>
    match comparePresences request baseline other with
    | .error d =>
      .error ⟨path, request.usage, d.attr, d.left, d.right, baseline.index, other.index⟩
    | .ok ignored => (compareAll path request baseline others).map (ignored ++ ·)

end Compatibility

open Compatibility in
/-- Whether the field at the path can be used alike in all schemas. It is an error if no schema has
    the field. -/
def checkCompatibility (path : FieldPath) (request : CompatibilityRequest)
    (schemas : List Definition) : Except SchemaError Verdict :=
  let (present, absence) := presences path schemas
  match present with
  | [] => .error (absence.getD (.invalid .noSchemas))
  | baseline :: others =>
    match present.findSome? Presence.found?, baseline with
    | none, .blocked _ e => .error e
    | _, _ =>
      match compareAll path request baseline others with
      | .error report => .ok (.conflicting report)
      | .ok ignored =>
        if ignored.isEmpty then .ok .compatible
        else .ok (.compatibleIgnoring (Attribute.all.filter ignored.contains))

end NestedSearch
