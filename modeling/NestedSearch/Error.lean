import NestedSearch.Predicate.Basic
import NestedSearch.Compatibility
import NestedSearch.Text

/-!
# What can be wrong with a query
-/

namespace NestedSearch

/-- A rule about predicates that a tree breaks. -/
inductive PredicateFault where
  | takesNoField (kind : String)
  | needsField (kind : String)
  | needsOneField (kind : String) (given : Nat)
  | badPattern (pattern : String)
  | openRange
  | badCircle
  | badPolygon
  | badBox
  | badNeighbours
  | badBoost (boost : Float32)
  /-- A pattern that is no regular expression once it has to span a whole term. -/
  | unwrappablePattern

namespace PredicateFault

/-- The wording of a fault, where it has one. -/
def message? : PredicateFault → Option String
  | .takesNoField kind => some s!"{kind} does not target fields"
  | .needsField kind => some s!"{kind} requires at least one field"
  | .needsOneField kind given => some s!"{kind} targets exactly one field, got {given}"
  | .badPattern pattern => some s!"invalid regular expression '{pattern}'"
  | .openRange => some "range requires at least one bound"
  | .badCircle => some "invalid circle"
  | .badPolygon => some "polygon requires at least three valid points"
  | .badBox => some "invalid bounding box"
  | .badNeighbours => some "knn requires a vector and k > 0"
  | .badBoost boost =>
    some ("boost must be a finite, non-negative number, got " ++
      (Decimal.ofFloat32 boost).show .plain)
  | .unwrappablePattern => none

end PredicateFault

/-- A path that is evaluated outside the scope it belongs to, or a tree that is not compiled. -/
inductive EvaluationFault where
  | namedPredicate (name : String)
  | outsideScope (path place : FieldPath)

/-- Why a query cannot be built, compiled or evaluated. -/
inductive QueryError where
  | schema (cause : SchemaError)
  /-- Two fields of one leaf need different scopes. -/
  | crossNestedPath (field : FieldPath) (chain : NestingChain) (otherField : FieldPath)
      (otherChain : NestingChain)
  | unknownNamedPredicate (name : String) (node : Option FieldPath) (index : String)
  | missingParameter (predicate name : String)
  | mistypedParameter (predicate name expected actual : String)
  | duplicateParameter (name : String)
  | duplicateNamedPredicate (name : String) (node : Option FieldPath) (index : String)
  | conflict (report : ConflictReport)
  | unsupportedUsage (field : FieldPath) (usage : Usage) (index : String)
  | invalidPredicate (fault : PredicateFault)
  | tooManyClauses (limit : Nat)
  | namedPredicateRecursion (name : String) (depth : Nat)
  | scopeMismatch (expected actual : List String)
  | emptyScope
  | duplicateIndex (name : String)
  | unsupportedEvaluation (fault : EvaluationFault)
  /-- A text that is not the JSON form of what it should be. -/
  | serialization

namespace EvaluationFault

def message : EvaluationFault → String
  | .namedPredicate name => s!"named predicate '{name}' was not expanded"
  | .outsideScope path place => s!"field '{path}' is outside of nested scope '{place}'"

end EvaluationFault

/-- The place that named predicates belong to, as it is named in messages: an object field, or the
    index as a whole. -/
def describeNode : Option FieldPath → String
  | some path => s!"field '{path}'"
  | none => "index schema root"

namespace QueryError

def message : QueryError → String
  | .schema cause => cause.message
  | .crossNestedPath field chain otherField otherChain =>
    s!"multi-field predicate spans different nested paths: field '{field}' requires " ++
    s!"{chain.describe} but field '{otherField}' requires {otherChain.describe}"
  | .unknownNamedPredicate name node index =>
    s!"unknown named predicate '{name}' on {describeNode node} in index '{index}'"
  | .missingParameter predicate name =>
    s!"named predicate '{predicate}': parameter '{name}' was not bound for this invocation"
  | .mistypedParameter predicate name expected actual =>
    s!"named predicate '{predicate}': parameter '{name}' should be {expected}, found {actual}"
  | .duplicateParameter name => s!"parameter '{name}' is already bound"
  | .duplicateNamedPredicate name node index =>
    s!"named predicate '{name}' is already registered on {describeNode node} in index '{index}'"
  | .conflict report => report.message
  | .unsupportedUsage field usage index =>
    s!"field '{field}' in index '{index}' does not support '{usage.name}'"
  | .invalidPredicate fault =>
    match fault.message? with
    | some reason => s!"invalid predicate: {reason}"
    | none => "invalid predicate"
  | .tooManyClauses limit => s!"query expands to more than {limit} leaf predicates"
  | .namedPredicateRecursion name depth =>
    s!"named predicate '{name}' exceeded the expansion depth of {depth}"
  | .scopeMismatch expected actual =>
    s!"query was compiled for indexes {Text.quotedList expected} " ++
    s!"but reused against {Text.quotedList actual}"
  | .emptyScope => "search scope has no target index"
  | .duplicateIndex name => s!"index '{name}' appears more than once in the search scope"
  | .unsupportedEvaluation fault => s!"cannot evaluate: {fault.message}"
  | .serialization => "serialization error"

/-- The conflict between indexes that the error is about, if it is about one. -/
def conflict? : QueryError → Option ConflictReport
  | .conflict report => some report
  | _ => none

end QueryError

end NestedSearch
