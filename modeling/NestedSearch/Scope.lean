import NestedSearch.Named

/-!
# Search scopes

The indexes that a query is about. A path is resolved in all of them at once, which only works
if they agree on what the path leads to, as far as the shape of the query depends on it.
-/

namespace NestedSearch

/-- An index with the named predicates it provides. -/
structure TargetIndex where
  schema : Schema
  named : Registry

namespace TargetIndex

/-- An index without named predicates. -/
def ofSchema (schema : Schema) : TargetIndex := ⟨schema, .empty⟩

def name (i : TargetIndex) : String := i.schema.index

/-- The object field that a text names, if it names one. -/
def nodeOf (i : TargetIndex) : Option String → Except QueryError (Option FieldPath)
  | none => .ok none
  | some text =>
    match FieldPath.parse text with
    | .error cause => .error (.schema (.invalidPath text cause))
    | .ok path =>
      match i.schema.resolve path with
      | .error e => .error (.schema e)
      | .ok r =>
        match r.kind with
        | .object => .ok (some path)
        | .value => .error (.unsupportedUsage path .named i.name)

/-- Provides a predicate under a name for an object field, or for the index as a whole. -/
def register (i : TargetIndex) (node : Option String) (name : String) (provider : Provider) :
    Except QueryError TargetIndex :=
  match FieldPath.single name with
  | .error cause => .error (.schema (.invalidPath name cause))
  | .ok _ => do
    let node ← i.nodeOf node
    match i.named.insert? node name provider with
    | some named => .ok { i with named }
    | none => .error (.duplicateNamedPredicate name node i.name)

end TargetIndex

/-- Indexes of different names, at least one. -/
structure SearchScope where
  indexes : List TargetIndex
  nonempty : indexes ≠ []
  distinct : (indexes.map TargetIndex.name).Nodup

/-- What a path leads to in a scope. -/
structure ScopedResolution where
  path : FieldPath
  chain : NestingChain
  kind : NodeKind
  /-- The resolutions in the indexes that have the field. -/
  found : List Resolution

/-- The first name that occurs among those before it. -/
def firstRepeated? (seen : List String) : List String → Option String
  | [] => none
  | n :: ns => if n ∈ seen then some n else firstRepeated? (n :: seen) ns

namespace SearchScope

/-- The scope of these indexes. -/
def ofIndexes (indexes : List TargetIndex) : Except QueryError SearchScope :=
  if nonempty : indexes = [] then .error .emptyScope
  else if distinct : (indexes.map TargetIndex.name).Nodup then .ok ⟨indexes, nonempty, distinct⟩
  else
    .error (.duplicateIndex
      ((firstRepeated? [] (indexes.map TargetIndex.name)).getD ""))

/-- The scope of one index. -/
def single (i : TargetIndex) : SearchScope := ⟨[i], by simp, by simp⟩

/-- The names of the indexes, in order. -/
def indexNames (s : SearchScope) : List String :=
  (s.indexes.map TargetIndex.name).mergeSort fun a b => decide (a ≤ b)

/-- The schemas of the indexes, in the order of the scope. -/
def schemas (s : SearchScope) : List Definition := s.indexes.map fun i => i.schema.toDefinition

def isMultiIndex (s : SearchScope) : Bool := 1 < s.indexes.length

/-- The difference between two resolutions that a query cannot bridge. -/
def difference? (l r : Resolution) : Option (Attribute × String × String) :=
  if l.kind ≠ r.kind then some (.nodeKind, l.kind.describe, r.kind.describe)
  else
    match l.node, r.node with
    | .object ls .., .object rs .. =>
      if ls ≠ rs then some (.storage, ls.name, rs.name) else chains
    | _, _ => chains
where
  chains :=
    if l.chain = r.chain then none
    else some (.nestedPathHierarchy, l.chain.describe, r.chain.describe)

/-- What a path relative to a root leads to. Indexes without the field are passed over, unless none
    has it. -/
def resolve (s : SearchScope) (root : Option FieldPath) (path : FieldPath) (usage : Usage) :
    Except QueryError ScopedResolution :=
  let attempts := s.indexes.map fun i => (i.name, i.schema.resolveFrom root path)
  let found := attempts.filterMap fun a => a.2.toOption
  let errors := attempts.filterMap fun a =>
    match a.2 with
    | .error e => some (a.1, e)
    | .ok _ => none
  let blocked := errors.find? fun e => !e.2.isUnknownField
  let conflict (attr : Attribute) (left right leftIndex rightIndex : String) :=
    QueryError.conflict
      ⟨FieldPath.joinUnder root path, usage, attr, left, right, leftIndex, rightIndex⟩
  match found with
  | [] =>
    match blocked, errors with
    | some (_, e), _ => .error (.schema e)
    | none, (_, e) :: _ => .error (.schema e)
    | none, [] => .error .emptyScope
  | first :: others =>
    match blocked with
    | some (index, _) =>
      .error (conflict .nodeKind NodeKind.object.describe NodeKind.value.describe first.index
        index)
    | none =>
      let differing := others.findSome? fun other =>
        (difference? first other).map fun d => (other.index, d)
      match differing with
      | some (index, attr, left, right) => .error (conflict attr left right first.index index)
      | none => .ok ⟨first.path, first.chain, first.kind, found⟩

end SearchScope

namespace ScopedResolution

/-- Fails unless the field can be used this way in every index that has it. -/
def require (r : ScopedResolution) (usage : Usage) : Except QueryError Unit :=
  match r.found.find? fun f => !f.node.supports usage with
  | some f => .error (.unsupportedUsage f.path usage f.index)
  | none => .ok ()

end ScopedResolution

end NestedSearch
