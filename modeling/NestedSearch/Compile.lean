import NestedSearch.Placement
import NestedSearch.Predicate.Codec

/-!
# Compiling

A compiled query is a placed predicate whose fields are configured alike in all indexes of
the scope, as far as their usage depends on it. A conflict over a field in an optional clause may
be let pass; it is then recorded beside the query.
-/

namespace NestedSearch

/-- A conflict that was let pass. -/
structure Diagnostic where
  report : ConflictReport
deriving DecidableEq

namespace Diagnostic

def message (d : Diagnostic) : String := "optional clause ignored: " ++ d.report.message

end Diagnostic

/-- A query that is ready to be evaluated. -/
structure CompiledQuery where
  predicate : Predicate
  leaves : List ResolvedLeaf
  /-- The names of the indexes it was compiled for, in order. -/
  indexes : List String
  diagnostics : List Diagnostic

/-- A field to be compared across the indexes of a scope. -/
structure FieldCheck where
  field : FieldPath
  request : CompatibilityRequest
  optional : Bool

namespace Placed

/-- The comparisons that a placed predicate asks for: first the fields of its leaves, then the
    scopes that were written out. -/
def checks (r : Placed) : List FieldCheck :=
  r.leaves.flatMap (fun l => l.fields.map fun f => ⟨f, ⟨l.usage, l.analysis⟩, l.optional⟩) ++
    r.scopes.map fun s => ⟨s.1, ⟨.nested, .none⟩, s.2⟩

end Placed

/-- Compares fields one after the other, and records the conflicts that may pass. -/
def checkFieldsAcross (schemas : List Definition) (policy : OptionalConflictPolicy)
    (recorded : List Diagnostic) : List FieldCheck → Except QueryError (List Diagnostic)
  | [] => .ok recorded
  | c :: rest =>
    match checkCompatibility c.field c.request schemas with
    | .error e => .error (.schema e)
    | .ok (.conflicting report) =>
      if !c.optional || policy = .fail then .error (.conflict report)
      else if recorded.contains ⟨report⟩ then checkFieldsAcross schemas policy recorded rest
      else checkFieldsAcross schemas policy (recorded ++ [⟨report⟩]) rest
    | .ok _ => checkFieldsAcross schemas policy recorded rest

/-- Compiles a predicate for a scope. -/
def compile (scope : SearchScope) (config : CompilerConfig) (p : Predicate) :
    Except QueryError CompiledQuery := do
  let r ← place scope config p
  let diagnostics ←
    if scope.isMultiIndex then
      checkFieldsAcross scope.schemas config.optionalConflicts [] r.checks
    else .ok []
  return ⟨r.predicate, r.leaves, scope.indexNames, diagnostics⟩

namespace CompiledQuery

/-- Fails unless the scope has exactly the indexes that the query was compiled for. -/
def ensureScope (q : CompiledQuery) (scope : SearchScope) : Except QueryError Unit :=
  if scope.indexNames = q.indexes then .ok ()
  else .error (.scopeMismatch q.indexes scope.indexNames)

end CompiledQuery

/-! ## In JSON -/

open Json (Record)

namespace ResolvedLeaf

def ofJson? (j : Json) : Option ResolvedLeaf := do
  let r ← Record.ofJson? ["fields", "usage", "analysis", "chain", "optional"] j
  return ⟨← r.required? "fields" (Json.list? Json.path?),
    ← r.required? "usage" (Usage.ofJson? .text),
    ← r.defaulted? "analysis" .none (AnalysisOverride.ofJson? .text),
    ← r.required? "chain" NestingChain.ofJson?, ← r.required? "optional" Json.bool?⟩

def toJson (l : ResolvedLeaf) : Json :=
  .ofMembers [("fields", .arr (l.fields.map Json.ofPath)), ("usage", l.usage.toJson),
    ("analysis", l.analysis.toJson), ("chain", l.chain.toJson), ("optional", .bool l.optional)]

end ResolvedLeaf

namespace Diagnostic

def ofJson? (j : Json) : Option Diagnostic := do
  let r ← Record.ofJson? ["conflict"] j
  return ⟨← r.required? "conflict" (ConflictReport.ofJson? .text)⟩

def toJson (d : Diagnostic) : Json := .ofMembers [("conflict", d.report.toJson)]

end Diagnostic

namespace CompiledQuery

def toJson (q : CompiledQuery) : Json :=
  .ofMembers [("predicate", q.predicate.toJson),
    ("leaves", .arr (q.leaves.map ResolvedLeaf.toJson)),
    ("indexes", .arr (q.indexes.map Json.ofString)),
    ("diagnostics", .arr (q.diagnostics.map Diagnostic.toJson))]

/-- The query as a text for a person to read. -/
def render (q : CompiledQuery) : String := q.toJson.pretty

end CompiledQuery

end NestedSearch
