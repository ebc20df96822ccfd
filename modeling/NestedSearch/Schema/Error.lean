import NestedSearch.FieldPath
import NestedSearch.Schema.Field

/-!
# What can be wrong with a schema, or with a path into it
-/

namespace NestedSearch

/-- A rule about schemas that a definition breaks. -/
inductive SchemaFault where
  | blankIndexName
  | emptyVector (index : String) (path : FieldPath)
  | analysisOfNonText (index : String) (path : FieldPath) (type : FieldType)
  | analyzerAndNormalizer (index : String) (path : FieldPath)
  | searchAnalyzerAlone (index : String) (path : FieldPath)
  | unknownUsage (name : String)
  | noSchemas
deriving DecidableEq

namespace SchemaFault

def message : SchemaFault → String
  | .blankIndexName => "index name must not be empty"
  | .emptyVector index path =>
    s!"index '{index}': vector field '{path}' must have a positive dimension"
  | .analysisOfNonText index path type =>
    s!"index '{index}': field '{path}' of type {type.describe} cannot declare analysis resources"
  | .analyzerAndNormalizer index path =>
    s!"index '{index}': field '{path}' declares both an analyzer and a normalizer"
  | .searchAnalyzerAlone index path =>
    s!"index '{index}': field '{path}' declares a search analyzer without an analyzer"
  | .unknownUsage name => s!"unknown field trait: {name}"
  | .noSchemas => "compatibility check needs at least one schema"

end SchemaFault

/-- Why a schema cannot be built, or a path not followed in it. -/
inductive SchemaError where
  | invalidPath (text : String) (cause : PathError)
  /-- No field at `missing`, the part of `path` up to the first segment that leads nowhere. -/
  | unknownField (index : String) (path missing : FieldPath)
  | wrongNodeKind (index : String) (path : FieldPath) (expected actual : NodeKind)
  | duplicateField (index : String) (path : FieldPath)
  | invalid (fault : SchemaFault)
  /-- A text that is not the JSON form of what it should be. -/
  | serialization
deriving DecidableEq

namespace SchemaError

/-- The wording of an error; a text that does not decode has none of its own. -/
def message : SchemaError → String
  | .invalidPath text cause => s!"invalid field path '{text}': {cause.message}"
  | .unknownField index path missing =>
    s!"unknown field '{missing}' in index '{index}' (while resolving '{path}')"
  | .wrongNodeKind index path expected actual =>
    s!"field '{path}' in index '{index}': expected {expected.describe}, found {actual.describe}"
  | .duplicateField index path => s!"duplicate field '{path}' in index '{index}'"
  | .invalid fault => s!"invalid schema: {fault.message}"
  | .serialization => "serialization error"

/-- Whether the error says that the index has no such field. -/
def isUnknownField : SchemaError → Bool
  | .unknownField .. => true
  | _ => false

end SchemaError

end NestedSearch
