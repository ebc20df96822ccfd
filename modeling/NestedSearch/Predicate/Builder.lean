import NestedSearch.Predicate.Check

/-!
# Building predicates

A builder makes predicates whose paths are written relative to its root. Predicates with options
are built in steps: a step is started with a first field, given its options, and finished with
what is looked for.
-/

namespace NestedSearch

/-- Makes predicates with paths relative to a root. -/
structure Builder where
  root : Option FieldPath
deriving DecidableEq

namespace Builder

/-- Paths are relative to the whole document. -/
def top : Builder := ⟨none⟩

/-- Reads a path relative to the root. -/
def path (b : Builder) (text : String) : Except QueryError FieldPath :=
  match FieldPath.parse text with
  | .ok p => .ok (FieldPath.joinUnder b.root p)
  | .error cause => .error (.schema (.invalidPath text cause))

/-- The builder whose root is at a path. -/
def withRoot (b : Builder) (text : String) : Except QueryError Builder :=
  (b.path text).map fun p => ⟨some p⟩

/-- A leaf that keeps the rules. -/
def checked (l : Leaf) : Except QueryError Predicate :=
  match l.check with
  | .ok () => .ok (.leaf l)
  | .error fault => .error (.invalidPredicate fault)

/-- A leaf on these fields. -/
def leaf (b : Builder) (fields : List String) (kind : PredicateKind) :
    Except QueryError Predicate := do
  checked ⟨← fields.mapM b.path, kind⟩

def matchAll : Predicate := .leaf ⟨[], .matchAll⟩

def matchNone : Predicate := .leaf ⟨[], .matchNone⟩

def ids (documents : List String) : Predicate := .leaf ⟨[], .ids documents⟩

def hasValue (b : Builder) (field : String) : Except QueryError Predicate := b.leaf [field] .exists

def wildcard (b : Builder) (field pattern : String) : Except QueryError Predicate :=
  b.leaf [field] (.wildcard pattern)

def regexp (b : Builder) (field pattern : String) : Except QueryError Predicate :=
  b.leaf [field] (.regexp pattern)

def withinCircle (b : Builder) (field : String) (center : GeoPoint) (radiusMeters : Float) :
    Except QueryError Predicate :=
  b.leaf [field] (.withinCircle center radiusMeters)

def withinPolygon (b : Builder) (field : String) (points : List GeoPoint) :
    Except QueryError Predicate :=
  b.leaf [field] (.withinPolygon points)

def withinBoundingBox (b : Builder) (field : String) (topLeft bottomRight : GeoPoint) :
    Except QueryError Predicate :=
  b.leaf [field] (.withinBoundingBox topLeft bottomRight)

def knn (b : Builder) (field : String) (vector : List Float32) (k : Nat) :
    Except QueryError Predicate :=
  b.leaf [field] (.knn vector k)

def nested (b : Builder) (path : String) (inner : Predicate) : Except QueryError Predicate :=
  (b.path path).map fun p => .nested p inner

def and (clauses : List Predicate) : Predicate := .bool .and clauses

def or (clauses : List Predicate) : Predicate := .bool .or clauses

def not (inner : Predicate) : Predicate := .not inner

def constantScore (inner : Predicate) : Predicate := .constantScore inner

def boost (inner : Predicate) (boost : Float32) : Except QueryError Predicate :=
  match checkBoost boost with
  | .ok () => .ok (.boosted inner boost)
  | .error fault => .error (.invalidPredicate fault)

end Builder

/-- A predicate on text or values that is being built: its fields and its analysis. -/
structure FieldStep where
  builder : Builder
  fields : List FieldPath
  analysis : AnalysisOverride

namespace FieldStep

/-- A step without fields. -/
def start (b : Builder) : FieldStep := ⟨b, [], .none⟩

/-- Targets one more field. -/
def field (s : FieldStep) (path : String) : Except QueryError FieldStep :=
  (s.builder.path path).map fun p => { s with fields := s.fields ++ [p] }

/-- Asks for an analyzer. -/
def analyzer (s : FieldStep) (name : String) : FieldStep := { s with analysis := .analyzer name }

/-- Asks for no analysis. -/
def skipAnalysis (s : FieldStep) : FieldStep := { s with analysis := .skip }

/-- Looks for a value, allowing so many edits. This is not checked: the step has a first field, and
    nothing else could be wrong. -/
def matching (s : FieldStep) (fuzziness : Nat) (value : ParamValue) :
    Except QueryError Predicate :=
  .ok (.leaf ⟨s.fields, .matching value s.analysis fuzziness⟩)

/-- Looks for a phrase, allowing so many gaps; as little is checked. -/
def phrase (s : FieldStep) (slop : Nat) (text : String) : Except QueryError Predicate :=
  .ok (.leaf ⟨s.fields, .phrase text slop s.analysis⟩)

/-- Looks for what a query string says, in the fields that were given, if any were. -/
def simpleQueryString (s : FieldStep) (operator : BoolOperator) (query : String) :
    Except QueryError Predicate :=
  Builder.checked ⟨s.fields, .simpleQueryString query operator s.analysis⟩

/-- Looks for values between bounds. -/
def range (s : FieldStep) (lower upper : Option RangeBound) : Except QueryError Predicate :=
  Builder.checked ⟨s.fields, .range lower upper⟩

end FieldStep

/-- A named predicate that is being built. -/
structure NamedStep where
  name : String
  params : ParamBag

namespace NamedStep

/-- The predicate of this name, on the object at the builder's root if it has one. -/
def start (b : Builder) (name : String) : NamedStep :=
  ⟨match b.root with
    | some root => root.toString ++ "." ++ name
    | none => name, .empty⟩

/-- Binds a parameter. -/
def param (s : NamedStep) (name : String) (value : ParamValue) : Except QueryError NamedStep :=
  match s.params.bind? name value with
  | some params => .ok { s with params }
  | none => .error (.duplicateParameter name)

def build (s : NamedStep) : Predicate := .named s.name s.params

end NamedStep

end NestedSearch
