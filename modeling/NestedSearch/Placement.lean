import NestedSearch.Config
import NestedSearch.Predicate.Check
import NestedSearch.Scope

/-!
# Placing a predicate

A predicate is written against paths relative to where it stands and leaves most scopes unsaid.
Placing it in a search scope makes all of that explicit: paths become absolute, every leaf is
wrapped in the scopes that its fields need and that are not open yet, and named predicates give
way to what their providers make. The leaves that target fields are listed with what is known
about them.

Placing a clause needs to know how many leaves precede it, and its result holds the leaves that it
adds; nothing else passes from one clause to the next.
-/

namespace NestedSearch

/-- A leaf of a placed predicate that targets fields. -/
structure ResolvedLeaf where
  /-- The absolute paths of the fields. -/
  fields : List FieldPath
  usage : Usage
  analysis : AnalysisOverride
  /-- The scopes of the fields, which they share. -/
  chain : NestingChain
  /-- Whether documents may match without this leaf, which then stands inside an `or`. -/
  optional : Bool
deriving DecidableEq

/-- A placed predicate. -/
structure Placed where
  predicate : Predicate
  leaves : List ResolvedLeaf
  /-- The scopes that were written out, and whether they are optional. -/
  scopes : List (FieldPath × Bool)

/-- Where a predicate stands. -/
structure Frame where
  /-- What paths are relative to. -/
  root : Option FieldPath
  /-- The innermost scope that is open. -/
  opened : Option FieldPath
  optional : Bool

namespace Frame

/-- The place of the whole query. -/
def top : Frame := ⟨none, none, false⟩

/-- The place of the clauses of a combination. -/
def clause (f : Frame) (operator : BoolOperator) : Frame :=
  { f with optional := f.optional || operator = .or }

end Frame

/-- Puts a predicate inside scopes, the first one outermost. -/
def Predicate.within (scopes : List NestingScope) (p : Predicate) : Predicate :=
  scopes.foldr (fun scope inner => .nested scope.path inner) p

namespace Placement

/-! ## Leaves -/

/-- Resolves the fields of a leaf one by one: each must be usable, and must need the same scopes as
    the first one. Gives their absolute paths and these scopes. -/
def resolveFields (scope : SearchScope) (config : CompilerConfig) (root : Option FieldPath)
    (usage : Usage) (first : Option (FieldPath × NestingChain)) :
    List FieldPath → Except QueryError (List FieldPath × NestingChain)
  | [] => .ok ([], (first.map (·.2)).getD .empty)
  | field :: rest => do
    let r ← scope.resolve root field usage
    if config.validateUsages then r.require usage
    match first with
    | none =>
      let (paths, chain) ← resolveFields scope config root usage (some (r.path, r.chain)) rest
      return (r.path :: paths, chain)
    | some (firstPath, firstChain) =>
      if firstChain ≠ r.chain then
        .error (.crossNestedPath r.path r.chain firstPath firstChain)
      let (paths, chain) ← resolveFields scope config root usage first rest
      return (r.path :: paths, chain)

/-- Places a leaf that `used` leaves precede. -/
def leaf (scope : SearchScope) (config : CompilerConfig) (frame : Frame) (used : Nat)
    (l : Leaf) : Except QueryError Placed := do
  if config.maxClauseCount < used + 1 then .error (.tooManyClauses config.maxClauseCount)
  match l.check with
  | .error fault => .error (.invalidPredicate fault)
  | .ok () =>
    match l.kind.usage? with
    | none => return ⟨.leaf l, [], []⟩
    | some usage =>
      let (fields, chain) ← resolveFields scope config frame.root usage none l.fields
      return ⟨(Predicate.leaf ⟨fields, l.kind⟩).within (chain.after frame.opened),
        [⟨fields, usage, l.kind.analysis, chain, frame.optional⟩], []⟩

/-! ## Named predicates -/

/-- The providers of the indexes that have the node, with the names of the indexes. -/
def candidates (scope : SearchScope) (node : Option FieldPath) (name : String) :
    List (String × Option Provider) :=
  let indexes := match node with
    | none => scope.indexes
    | some path => scope.indexes.filter fun i => (i.schema.node? path).isSome
  indexes.map fun i => (i.name, i.named.get? node name)

/-- The conflict over a named predicate between two indexes. -/
def namedConflict (full : FieldPath) (left right rightValue : String) : QueryError :=
  .conflict ⟨full, .named, .namedPredicate, "registered", rightValue, left, right⟩

/-- The provider that all indexes with the node register under the name. -/
def lookup (scope : SearchScope) (node : Option FieldPath) (name : String) (full : FieldPath) :
    Except QueryError Provider :=
  let found := candidates scope node name
  let registered := found.filterMap fun c => c.2.map fun p => (c.1, p)
  match registered with
  | [] =>
    .error (.unknownNamedPredicate name node ((found.head?.map (·.1)).getD ""))
  | (index, provider) :: others =>
    match others.find? fun o => o.2.key ≠ provider.key with
    | some other => .error (namedConflict full index other.1 "registered (different factory)")
    | none =>
      match found.find? fun c => c.2.isNone with
      | some missing => .error (namedConflict full index missing.1 "not registered")
      | none => .ok provider

/-- Where the invocation of a named predicate leads: the node it is looked up on, and the scopes
    to open on the way. -/
def target (scope : SearchScope) (frame : Frame) (full : FieldPath) :
    Except QueryError (Option FieldPath × List NestingScope) :=
  match full.parent? with
  | none => .ok (frame.root, [])
  | some place => do
    let r ← scope.resolve frame.root place .named
    if r.kind ≠ .object then r.require .named
    return (some r.path, r.chain.after frame.opened)

/-- How a predicate is placed: where it stands and how many leaves precede it. -/
abbrev Step := Frame → Nat → Predicate → Except QueryError Placed

/-- Expands a named predicate, with a way to place what its provider makes; without one, no further
    expansion is allowed. -/
def named (scope : SearchScope) (config : CompilerConfig) (expand : Option Step) (frame : Frame)
    (used : Nat) (name : String) (params : ParamBag) : Except QueryError Placed :=
  match expand with
  | none => .error (.namedPredicateRecursion name config.maxExpansionDepth)
  | some expand =>
    match FieldPath.parse name with
    | .error cause => .error (.schema (.invalidPath name cause))
    | .ok full => do
      let (node, residual) ← target scope frame full
      let provider ← lookup scope node full.last.name full
      let produced ← provider.provide ⟨name, params⟩
      let opened := match residual.getLast? with
        | some innermost => some innermost.path
        | none => frame.opened
      let r ← expand ⟨node, opened, frame.optional⟩ used produced
      return { r with predicate := r.predicate.within residual }

/-! ## Trees -/

mutual

/-- Places a tree, with a way to place what named predicates stand for. -/
def tree (scope : SearchScope) (config : CompilerConfig) (expand : Option Step) (frame : Frame)
    (used : Nat) : Predicate → Except QueryError Placed
  | .leaf l => leaf scope config frame used l
  | .bool operator clauses => do
    let (ps, leaves, scopes) ← trees scope config expand (frame.clause operator) used clauses
    return ⟨.bool operator ps, leaves, scopes⟩
  | .not inner => do
    let r ← tree scope config expand frame used inner
    return { r with predicate := .not r.predicate }
  | .nested path inner => do
    let target ← scope.resolve frame.root path .nested
    target.require .nested
    let r ← tree scope config expand
      { frame with root := some target.path, opened := some target.path } used inner
    return ⟨r.predicate.within (target.chain.after frame.opened), r.leaves,
      (target.path, frame.optional) :: r.scopes⟩
  | .named name params => named scope config expand frame used name params
  | .boosted inner boost =>
    match checkBoost boost with
    | .error fault => .error (.invalidPredicate fault)
    | .ok () => do
      let r ← tree scope config expand frame used inner
      return { r with predicate := .boosted r.predicate boost }
  | .constantScore inner => do
    let r ← tree scope config expand frame used inner
    return { r with predicate := .constantScore r.predicate }

/-- Places clauses one after the other. -/
def trees (scope : SearchScope) (config : CompilerConfig) (expand : Option Step) (frame : Frame)
    (used : Nat) : List Predicate →
    Except QueryError (List Predicate × List ResolvedLeaf × List (FieldPath × Bool))
  | [] => .ok ([], [], [])
  | p :: ps => do
    let r ← tree scope config expand frame used p
    let (qs, leaves, scopes) ←
      trees scope config expand frame (used + r.predicate.leafCount) ps
    return (r.predicate :: qs, r.leaves ++ leaves, r.scopes ++ scopes)

end

/-- Places a tree in which named predicates stand at most this deeply inside one another. -/
def expanding (scope : SearchScope) (config : CompilerConfig) : (depth : Nat) → Step
  | 0 => tree scope config none
  | depth + 1 => tree scope config (some (expanding scope config depth))

end Placement

/-- Places a query in a search scope. -/
def place (scope : SearchScope) (config : CompilerConfig) (p : Predicate) :
    Except QueryError Placed :=
  Placement.expanding scope config config.maxExpansionDepth .top 0 p

end NestedSearch
