import NestedSearch.Schema.Basic

/-!
# Following a path

Following a path into a schema gives the field at its end and the nested objects crossed on
the way: the scopes a predicate on that field has to be evaluated in. Flattened objects are
passed without leaving a trace.
-/

namespace NestedSearch

/-- An object that a predicate has to be evaluated within. -/
structure NestingScope where
  path : FieldPath
  storage : Storage
deriving DecidableEq

/-- The scopes that a path needs, outermost first. -/
structure NestingChain where
  scopes : List NestingScope
deriving DecidableEq

namespace NestingChain

/-- The chain without scopes. -/
def empty : NestingChain := ⟨[]⟩

/-- The paths of the scopes, outermost first. -/
def paths (c : NestingChain) : List FieldPath := c.scopes.map NestingScope.path

/-- The last scope. -/
def innermost? (c : NestingChain) : Option NestingScope := c.scopes.getLast?

/-- Whether one of the scopes has this path. -/
def contains (c : NestingChain) (p : FieldPath) : Bool := c.paths.contains p

/-- The chain with one more scope inside. -/
def push (c : NestingChain) (scope : NestingScope) : NestingChain := ⟨c.scopes ++ [scope]⟩

/-- The scopes still to be opened inside an open one: leading scopes that are the open one or
    enclose it are satisfied. -/
def after (c : NestingChain) : Option FieldPath → List NestingScope
  | none => c.scopes
  | some opened => c.scopes.dropWhile fun scope => opened.startsWith scope.path

/-- The chain as it is shown in messages. -/
def describe (c : NestingChain) : String :=
  "[" ++ ", ".intercalate (c.paths.map FieldPath.toString) ++ "]"

end NestingChain

/-- What following a path led to. -/
structure Resolution where
  index : String
  /-- The path from the root of the document. -/
  path : FieldPath
  /-- The nested objects on the path, the end included. -/
  chain : NestingChain
  node : Node

namespace Resolution

def kind (r : Resolution) : NodeKind := r.node.kind

end Resolution

/-- Follows segments down from these fields, which lie at `place` within the scopes of `chain`.
    The path `full` is the one that errors name. -/
def descend (index : String) (full : FieldPath) (fields : Fields) (chain : NestingChain)
    (place : Option FieldPath) (segment : Segment) :
    List Segment → Except SchemaError Resolution
  | [] =>
    match fields.find? segment.name with
    | none => .error (.unknownField index full (.childOf place segment))
    | some node =>
      let here := FieldPath.childOf place segment
      .ok ⟨index, here, if node.isNested then chain.push ⟨here, .nested⟩ else chain, node⟩
  | next :: rest =>
    match fields.find? segment.name with
    | none => .error (.unknownField index full (.childOf place segment))
    | some (.value _) =>
      .error (.wrongNodeKind index (.childOf place segment) .object .value)
    | some (.object storage multiValued children) =>
      let here := FieldPath.childOf place segment
      descend index full children
        (if (Node.object storage multiValued children).isNested then chain.push ⟨here, .nested⟩
          else chain) (some here) next rest

namespace Definition

/-- Follows a path from the root of the document. -/
def resolve (d : Definition) (p : FieldPath) : Except SchemaError Resolution :=
  descend d.index p d.fields .empty none p.head p.tail

/-- Follows a path relative to a root, which must lead to an object. The scopes above the root
    are part of the result. -/
def resolveFrom (d : Definition) (root : Option FieldPath) (p : FieldPath) :
    Except SchemaError Resolution :=
  match root with
  | none => d.resolve p
  | some root =>
    let full := root.join p
    match descend d.index full d.fields .empty none root.head root.tail with
    | .error e => .error e
    | .ok start =>
      match start.node with
      | .value _ => .error (.wrongNodeKind d.index root .object .value)
      | .object _ _ children =>
        descend d.index full children start.chain (some start.path) p.head p.tail

end Definition

end NestedSearch
