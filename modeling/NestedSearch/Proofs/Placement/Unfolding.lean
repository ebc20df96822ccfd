import NestedSearch.Proofs.Placement.Steps

/-!
# Placement node by node

Every node of a tree has one equation: how it is placed, at any depth of expansion, from how its
parts are. The step that a node takes itself has a name there: `settle` for a leaf, `enter` for a
scope that is written out, `invoke` for a name.

What holds of every placement, whether it succeeds or fails, is shown with `expanding_induction`. It
has one case for each node, and gives a name all trees at one depth less, so that no proof has to
look at how the expansion of names is passed along.
-/

namespace NestedSearch

/-- A placed clause in front of a placed combination. -/
def Placed.addClause (first rest : Placed) : Placed where
  predicate := match rest.predicate with
    | .bool operator clauses => .bool operator (first.predicate :: clauses)
    | other => other
  leaves := first.leaves ++ rest.leaves
  scopes := first.scopes ++ rest.scopes

namespace Placement

/-! ## What a node does itself -/

/-- What becomes of a leaf that there is room for. -/
def settle (scope : SearchScope) (config : CompilerConfig) (frame : Frame) (l : Leaf) :
    Except QueryError Placed :=
  match l.check with
  | .error fault => .error (.invalidPredicate fault)
  | .ok () =>
    match l.kind.usage? with
    | none => .ok ⟨.leaf l, [], []⟩
    | some usage => do
      let (fields, chain) ← resolveFields scope config frame.root usage none l.fields
      return ⟨(Predicate.leaf ⟨fields, l.kind⟩).within (chain.after frame.opened),
        [⟨fields, usage, l.kind.analysis, chain, frame.optional⟩], []⟩

/-- Where a scope that is written out leads: to a nested object. -/
def enter (scope : SearchScope) (frame : Frame) (path : FieldPath) :
    Except QueryError ScopedResolution := do
  let outer ← scope.resolve frame.root path .nested
  outer.require .nested
  return outer

/-- What a name stands for where it is invoked. -/
structure Expansion where
  /-- The node that the name is looked up on. -/
  node : Option FieldPath
  /-- The scopes to open on the way there. -/
  residual : List NestingScope
  predicate : Predicate

/-- Asks the provider of a name for what it stands for. -/
def invoke (scope : SearchScope) (frame : Frame) (name : String) (params : ParamBag) :
    Except QueryError Expansion :=
  match FieldPath.parse name with
  | .error cause => .error (.schema (.invalidPath name cause))
  | .ok full => do
    let (node, residual) ← target scope frame full
    let provider ← lookup scope node full.last.name full
    let produced ← provider.provide ⟨name, params⟩
    return ⟨node, residual, produced⟩

section Steps

variable {scope : SearchScope}

theorem enter_eq_ok_iff {frame : Frame} {path : FieldPath} {outer : ScopedResolution} :
    enter scope frame path = .ok outer ↔
      scope.resolve frame.root path .nested = .ok outer ∧ outer.require .nested = .ok () := by
  unfold enter
  constructor
  · intro h
    obtain ⟨outer', houter, h⟩ := bind_eq_ok_iff.mp h
    obtain ⟨⟨⟩, hrequire, h⟩ := bind_eq_ok_iff.mp h
    cases h
    exact ⟨houter, hrequire⟩
  · rintro ⟨houter, hrequire⟩
    exact bind_eq_ok_iff.mpr ⟨outer, houter, bind_eq_ok_iff.mpr ⟨(), hrequire, rfl⟩⟩

/-- Where the path of a name leads to a node, the rest is up to its provider. -/
theorem invoke_of_target {frame : Frame} {name : String} {full : FieldPath}
    {node : Option FieldPath} {residual : List NestingScope} (hfull : FieldPath.parse name = .ok full)
    (htarget : target scope frame full = .ok (node, residual)) (params : ParamBag) :
    invoke scope frame name params = (do
      let provider ← lookup scope node full.last.name full
      (provider.provide ⟨name, params⟩).map fun produced => ⟨node, residual, produced⟩) := by
  rw [invoke, hfull]
  dsimp only
  rw [htarget]
  rfl

theorem invoke_eq_ok_iff {frame : Frame} {name : String} {params : ParamBag} {x : Expansion} :
    invoke scope frame name params = .ok x ↔
      ∃ full provider, FieldPath.parse name = .ok full ∧
        target scope frame full = .ok (x.node, x.residual) ∧
        lookup scope x.node full.last.name full = .ok provider ∧
        provider.provide ⟨name, params⟩ = .ok x.predicate := by
  constructor
  · intro h
    cases hfull : FieldPath.parse name with
    | error cause =>
      rw [invoke, hfull] at h
      cases h
    | ok full =>
      cases htarget : target scope frame full with
      | error e =>
        rw [invoke, hfull] at h
        dsimp only at h
        rw [htarget] at h
        cases h
      | ok there =>
        rw [invoke_of_target hfull htarget] at h
        obtain ⟨provider, hprovider, h⟩ := bind_eq_ok_iff.mp h
        obtain ⟨produced, hproduced, rfl⟩ := map_eq_ok_iff.mp h
        exact ⟨full, provider, rfl, htarget, hprovider, hproduced⟩
  · rintro ⟨full, provider, hfull, htarget, hprovider, hproduced⟩
    rw [invoke_of_target hfull htarget, hprovider]
    exact map_eq_ok_iff.mpr ⟨x.predicate, hproduced, rfl⟩

end Steps

/-! ## Equations -/

section Nodes

variable (scope : SearchScope) (config : CompilerConfig) (depth : Nat) (frame : Frame)
  (used : Nat)

theorem expanding_leaf (l : Leaf) :
    expanding scope config depth frame used (.leaf l) = leaf scope config frame used l := by
  obtain ⟨expand, hexpand⟩ := exists_expanding_eq scope config depth
  rw [hexpand]
  rfl

theorem expanding_noClause (operator : BoolOperator) :
    expanding scope config depth frame used (.bool operator []) =
      .ok ⟨.bool operator [], [], []⟩ := by
  obtain ⟨expand, hexpand⟩ := exists_expanding_eq scope config depth
  rw [hexpand]
  rfl

theorem expanding_clause (operator : BoolOperator) (p : Predicate) (ps : List Predicate) :
    expanding scope config depth frame used (.bool operator (p :: ps)) = (do
      let r ← expanding scope config depth (frame.clause operator) used p
      (expanding scope config depth frame (used + r.predicate.leafCount)
        (.bool operator ps)).map r.addClause) := by
  obtain ⟨expand, hexpand⟩ := exists_expanding_eq scope config depth
  rw [hexpand, tree, trees]
  cases tree scope config expand (frame.clause operator) used p with
  | error e => rfl
  | ok r =>
    show (trees scope config expand (frame.clause operator) (used + r.predicate.leafCount) ps >>= _)
      >>= _ = Except.map _ (tree scope config expand frame (used + r.predicate.leafCount) _)
    rw [tree]
    cases trees scope config expand (frame.clause operator) (used + r.predicate.leafCount) ps
      <;> rfl

theorem expanding_not (inner : Predicate) :
    expanding scope config depth frame used (.not inner) =
      (expanding scope config depth frame used inner).map
        fun r => { r with predicate := .not r.predicate } := by
  obtain ⟨expand, hexpand⟩ := exists_expanding_eq scope config depth
  rw [hexpand]
  rfl

theorem expanding_settle (l : Leaf) :
    expanding scope config depth frame used (.leaf l) =
      if config.maxClauseCount < used + 1 then .error (.tooManyClauses config.maxClauseCount)
      else settle scope config frame l := by
  rw [expanding_leaf]
  rfl

theorem expanding_enter (path : FieldPath) (inner : Predicate) :
    expanding scope config depth frame used (.nested path inner) = (do
      let outer ← enter scope frame path
      (expanding scope config depth
        { frame with root := some outer.path, opened := some outer.path } used inner).map
        fun r => ⟨r.predicate.within (outer.chain.after frame.opened), r.leaves,
          (outer.path, frame.optional) :: r.scopes⟩) := by
  obtain ⟨expand, hexpand⟩ := exists_expanding_eq scope config depth
  rw [hexpand, tree, enter]
  cases scope.resolve frame.root path .nested with
  | error e => rfl
  | ok outer =>
    show (outer.require .nested >>= _) = (outer.require .nested >>= _) >>= _
    cases outer.require .nested <;> rfl

theorem expanding_constantScore (inner : Predicate) :
    expanding scope config depth frame used (.constantScore inner) =
      (expanding scope config depth frame used inner).map
        fun r => { r with predicate := .constantScore r.predicate } := by
  obtain ⟨expand, hexpand⟩ := exists_expanding_eq scope config depth
  rw [hexpand]
  rfl

theorem expanding_boost (inner : Predicate) (boost : Float32) :
    expanding scope config depth frame used (.boosted inner boost) =
      match checkBoost boost with
      | .error fault => .error (.invalidPredicate fault)
      | .ok () => (expanding scope config depth frame used inner).map
          fun r => { r with predicate := .boosted r.predicate boost } := by
  obtain ⟨expand, hexpand⟩ := exists_expanding_eq scope config depth
  rw [hexpand, tree]
  cases checkBoost boost <;> rfl

theorem expanding_none (name : String) (params : ParamBag) :
    expanding scope config 0 frame used (.named name params) =
      .error (.namedPredicateRecursion name config.maxExpansionDepth) := rfl

theorem expanding_invoke (name : String) (params : ParamBag) :
    expanding scope config (depth + 1) frame used (.named name params) = (do
      let x ← invoke scope frame name params
      (expanding scope config depth (frame.expansion x.node x.residual) used x.predicate).map
        fun r => { r with predicate := r.predicate.within x.residual }) := by
  show named scope config (some (expanding scope config depth)) frame used name params = _
  unfold named invoke
  cases FieldPath.parse name with
  | error cause => rfl
  | ok full =>
    dsimp only
    cases target scope frame full with
    | error e => rfl
    | ok there =>
      obtain ⟨node, residual⟩ := there
      show (lookup scope node full.last.name full >>= _) = (lookup _ _ _ _ >>= _) >>= _
      cases lookup scope node full.last.name full with
      | error e => rfl
      | ok provider =>
        show (provider.provide ⟨name, params⟩ >>= _) = (provider.provide _ >>= _) >>= _
        cases provider.provide ⟨name, params⟩ with
        | error e => rfl
        | ok produced =>
          show (expanding scope config depth ⟨node, _, frame.optional⟩ used produced >>= _) =
            (expanding scope config depth (frame.expansion node residual) used produced).map _
          unfold Frame.expansion
          cases residual.getLast? <;> rfl

/-- What a combination is placed as is a combination. -/
theorem exists_bool_of_expanding {operator : BoolOperator} {ps : List Predicate} {r : Placed}
    (h : expanding scope config depth frame used (.bool operator ps) = .ok r) :
    ∃ qs, r.predicate = .bool operator qs := by
  obtain ⟨expand, hexpand⟩ := exists_expanding_eq scope config depth
  rw [hexpand, tree] at h
  obtain ⟨⟨qs, leaves, scopes⟩, -, h⟩ := bind_eq_ok_iff.mp h
  cases h
  exact ⟨qs, rfl⟩

end Nodes

/-! ## Induction -/

/-- **To show something of all trees in all frames at all depths**, show it of every node from its
    parts, and of a name from all trees at one depth less. -/
@[elab_as_elim]
theorem expanding_induction {motive : Nat → Frame → Predicate → Prop}
    (leaf : ∀ depth frame l, motive depth frame (.leaf l))
    (noClause : ∀ depth frame operator, motive depth frame (.bool operator []))
    (clause : ∀ depth frame operator p ps, motive depth (Frame.clause frame operator) p →
      motive depth frame (.bool operator ps) → motive depth frame (.bool operator (p :: ps)))
    (not : ∀ depth frame inner, motive depth frame inner → motive depth frame (.not inner))
    (nested : ∀ depth frame path inner, (∀ frame', motive depth frame' inner) →
      motive depth frame (.nested path inner))
    (boosted : ∀ depth frame inner boost, motive depth frame inner →
      motive depth frame (.boosted inner boost))
    (constantScore : ∀ depth frame inner, motive depth frame inner →
      motive depth frame (.constantScore inner))
    (unexpanded : ∀ frame name params, motive 0 frame (.named name params))
    (named : ∀ depth frame name params, (∀ frame' p, motive depth frame' p) →
      motive (depth + 1) frame (.named name params)) (depth : Nat) (frame : Frame)
    (p : Predicate) : motive depth frame p := by
  -- At one depth, what holds of names holds of trees: of clauses it is shown by way of what they
  -- are combined to, in any frame and by either operator.
  have trees (depth : Nat) (hnamed : ∀ frame name params, motive depth frame (.named name params))
      (p : Predicate) : ∀ frame, motive depth frame p :=
    @Predicate.rec (fun p => ∀ frame, motive depth frame p)
      (fun clauses => ∀ operator frame, motive depth frame (.bool operator clauses))
      (fun l frame => leaf depth frame l)
      (fun operator _ ih frame => ih operator frame)
      (fun inner ih frame => not depth frame inner (ih frame))
      (fun path inner ih frame => nested depth frame path inner ih)
      (fun name params frame => hnamed frame name params)
      (fun inner boost ih frame => boosted depth frame inner boost (ih frame))
      (fun inner ih frame => constantScore depth frame inner (ih frame))
      (fun operator frame => noClause depth frame operator)
      (fun p ps ihp ihps operator frame =>
        clause depth frame operator p ps (ihp (frame.clause operator)) (ihps operator frame)) p
  induction depth generalizing frame p with
  | zero => exact trees 0 unexpanded p frame
  | succ depth ih =>
    exact trees (depth + 1) (fun frame name params => named depth frame name params ih) p frame

end Placement
end NestedSearch
