import NestedSearch.Error

/-!
# Named predicates

An index can provide predicates under names, for itself or for one of its object fields. A
provider makes the predicate from the parameters of the invocation. Two providers are the same
one if they have the same key.
-/

namespace NestedSearch

/-- The invocation of a named predicate. -/
structure Invocation where
  name : String
  params : ParamBag

namespace Invocation

/-- A parameter that must be bound. -/
def param (i : Invocation) (name : String) : Except QueryError ParamValue :=
  match i.params.get? name with
  | some value => .ok value
  | none => .error (.missingParameter i.name name)

/-- A parameter that must be bound to a value of some type. -/
def typed {α : Type} (i : Invocation) (read : ParamValue → Option α) (expected name : String) :
    Except QueryError α := do
  let value ← i.param name
  match read value with
  | some a => .ok a
  | none => .error (.mistypedParameter i.name name expected value.typeName)

def string (i : Invocation) : String → Except QueryError String :=
  i.typed ParamValue.string? "string"

def int (i : Invocation) : String → Except QueryError Int := i.typed ParamValue.int? "int"

def float (i : Invocation) : String → Except QueryError Float :=
  i.typed ParamValue.float? "number"

def bool (i : Invocation) : String → Except QueryError Bool := i.typed ParamValue.bool? "bool"

end Invocation

/-- Makes the predicate that a name stands for. -/
structure Provider where
  key : String
  provide : Invocation → Except QueryError Predicate

/-- A provider registered under a name for an object field, or for the index as a whole. -/
structure Registration where
  node : Option FieldPath
  name : String
  provider : Provider

/-- The named predicates of an index. -/
structure Registry where
  registrations : List Registration

namespace Registry

/-- No named predicates. -/
def empty : Registry := ⟨[]⟩

/-- The provider registered for the node under the name. -/
def get? (r : Registry) (node : Option FieldPath) (name : String) : Option Provider :=
  (r.registrations.find? fun e => e.node = node && e.name = name).map Registration.provider

/-- Registers a provider, unless the name is taken for that node. -/
def insert? (r : Registry) (node : Option FieldPath) (name : String) (provider : Provider) :
    Option Registry :=
  match r.get? node name with
  | some _ => none
  | none => some ⟨r.registrations ++ [⟨node, name, provider⟩]⟩

def size (r : Registry) : Nat := r.registrations.length

/-- Whether one registration is listed before the other: by node, the index as a whole first, and
    then by name. -/
def precedes (a b : Registration) : Bool :=
  match a.node, b.node with
  | none, some _ => true
  | some _, none => false
  | none, none => a.name ≤ b.name
  | some p, some q =>
    match p.compare q with
    | .lt => true
    | .gt => false
    | .eq => a.name ≤ b.name

/-- The nodes and names under which predicates are registered, in the order of listing. -/
def names (r : Registry) : List (Option FieldPath × String) :=
  (r.registrations.mergeSort precedes).map fun e => (e.node, e.name)

/-- The registry as it is shown to a person. -/
def describe (r : Registry) : String :=
  let names := r.names.map fun (node, name) =>
    match node with
    | some path => path.toString ++ "." ++ name
    | none => name
  "NamedPredicateRegistry \x7b names: " ++ Text.quotedList names ++ " \x7d"

end Registry

end NestedSearch
