import NestedSearch.Proofs.Compile
import NestedSearch.Proofs.Placement.Containment
import NestedSearch.Proofs.Placement.Reach
import NestedSearch.Proofs.Placement.Scoping

/-!
# What a compiled tree can be relied on for

A compiled query is evaluated, or translated, by reading its tree alone. `Predicate.IsReady` says
what the reader need not check again: no name is left to expand, leaves and boosts keep their
rules, the fields of a leaf exist and share the scopes that they need, and whatever stands around
a leaf as a scope is a nested object. All of it is lost in an authored tree, where paths are
relative, and in what providers make, which nothing checks before it is placed; it holds of every
compiled one (`compile_isReady`).
-/

namespace NestedSearch

/-- The paths of the leaf lead from the root of the document to fields of one chain. -/
structure Leaf.IsReady (scope : SearchScope) (config : CompilerConfig) (l : Leaf) : Prop where
  /-- Some index has the field. -/
  declared : ∀ f ∈ l.fields, ∃ i ∈ scope.indexes, ∃ r, i.schema.resolve f = .ok r
  /-- All fields need the same scopes, in all indexes that have them. -/
  chain : ∃ chain, ∀ f ∈ l.fields, ∀ i ∈ scope.indexes, ∀ r, i.schema.resolve f = .ok r →
    r.chain = chain
  /-- All indexes that have a field support its usage, if usages are validated. -/
  supported : config.validateUsages = true → ∀ usage, l.kind.usage? = some usage →
    ∀ f ∈ l.fields, ∀ i ∈ scope.indexes, ∀ r, i.schema.resolve f = .ok r →
      r.node.supports usage = true

/-- The tree can be evaluated in the scope without being checked again. -/
structure Predicate.IsReady (scope : SearchScope) (config : CompilerConfig) (p : Predicate) :
    Prop where
  /-- No name is left. -/
  expanded : p.invocations = []
  /-- Every leaf and every boost keeps the rules. -/
  wellFormed : p.isWellFormed = true
  leaves : ∀ l ∈ p.leaves, l.IsReady scope config
  /-- A scope around a leaf is a nested object in every index that has one of the leaf's fields. -/
  scopes : ∀ o ∈ p.fieldOccurrences, ∀ a ∈ o.scopes, ∀ i ∈ scope.indexes,
    (∃ f ∈ o.leaf.fields, ∃ r, i.schema.resolve f = .ok r) →
      ∃ r, i.schema.resolve a = .ok r ∧ r.node.isNested = true

variable {scope : SearchScope} {config : CompilerConfig} {frame : Frame} {p : Predicate}
  {r : Placed}

@[simp] theorem Predicate.isWellFormed_within (scopes : List NestingScope) (p : Predicate) :
    (p.within scopes).isWellFormed = p.isWellFormed := by
  induction scopes with
  | nil => rfl
  | cons s rest ih => exact ih

theorem isBoost_of_checkBoost {boost : Float32} (h : checkBoost boost = .ok ()) :
    isBoost boost = true := by
  unfold checkBoost at h
  split at h
  · assumption
  · cases h

namespace Placement

/-- **A placed predicate keeps the rules**, for leaves and for boosts. -/
theorem Derivation.isWellFormed (h : Derivation scope config frame p r) :
    r.predicate.isWellFormed = true := by
  induction h with
  | @bare frame l hcheck husage =>
    show l.check.isOk = true
    rw [hcheck]
    rfl
  | @leaf frame l usage fields chain hcheck husage hfields =>
    rw [Predicate.isWellFormed_within]
    show (Leaf.check ⟨fields, l.kind⟩).isOk = true
    rw [check_congr (by rw [(resolveFields_ok hfields).1, List.length_map]), hcheck]
    rfl
  | noClause => rfl
  | clause hfirst hrest ihfirst ihrest => exact Bool.and_eq_true_iff.mpr ⟨ihfirst, ihrest⟩
  | nested houter hrequire hinner ih =>
    rw [Predicate.isWellFormed_within]
    exact ih
  | named hfull htarget hprovider hproduced hinner ih =>
    rw [Predicate.isWellFormed_within]
    exact ih
  | boosted hboost hinner ih =>
    exact Bool.and_eq_true_iff.mpr ⟨isBoost_of_checkBoost hboost, ih⟩
  | not hinner ih | constantScore hinner ih => exact ih

/-- What a field that resolves in the scope leads to in one index. -/
theorem FieldResolves.of_resolve {usage : Usage} {chain : NestingChain} {f : FieldPath}
    (h : FieldResolves scope config usage chain f) {i : TargetIndex} (hi : i ∈ scope.indexes)
    {found : Resolution} (hfound : i.schema.resolve f = .ok found) :
    found.chain = chain ∧ (config.validateUsages = true → found.node.supports usage = true) := by
  obtain ⟨resolution, hresolution, rfl, hrequire⟩ := h
  have hagree := SearchScope.agreement hresolution
  obtain ⟨node, hnode, rfl⟩ := Definition.resolve_eq_ok_iff.mp hfound
  exact ⟨hagree.chain_eq i hi node hnode,
    fun hvalidates => hagree.supports (hrequire hvalidates) hi hnode⟩

theorem FieldResolves.exists_index {usage : Usage} {chain : NestingChain} {f : FieldPath}
    (h : FieldResolves scope config usage chain f) :
    ∃ i ∈ scope.indexes, ∃ found, i.schema.resolve f = .ok found := by
  obtain ⟨resolution, hresolution, -⟩ := h
  obtain ⟨i, hi, node, hnode⟩ := (SearchScope.agreement hresolution).some_index
  exact ⟨i, hi, _, Definition.resolve_eq_ok_iff.mpr ⟨node, hnode, rfl⟩⟩

theorem Derivation.leaves_ready (h : Derivation scope config frame p r) :
    ∀ l ∈ r.predicate.leaves, l.IsReady scope config := by
  refine h.forall_leaves ?_ ?_
  · intro l hcheck husage
    have hnone := fields_eq_nil_of_check hcheck husage
    exact ⟨by simp [hnone], ⟨.empty, by simp [hnone]⟩, by simp [hnone]⟩
  · intro l root usage fields chain hcheck husage hfields
    have hresolves := (resolveFields_ok hfields).2.1
    refine ⟨fun f hf => (hresolves f hf).exists_index,
      ⟨chain, fun f hf i hi found hfound => ((hresolves f hf).of_resolve hi hfound).1⟩, ?_⟩
    intro hvalidates usage' husage' f hf i hi found hfound
    cases husage.symm.trans husage'
    exact ((hresolves f hf).of_resolve hi hfound).2 hvalidates

/-- The scopes in a chain are nested objects. -/
theorem FieldResolves.scope_nested {usage : Usage} {chain : NestingChain} {f a : FieldPath}
    (h : FieldResolves scope config usage chain f) (ha : a ∈ chain.paths) {i : TargetIndex}
    (hi : i ∈ scope.indexes) {found : Resolution} (hfound : i.schema.resolve f = .ok found) :
    ∃ above, i.schema.resolve a = .ok above ∧ above.node.isNested = true := by
  rw [← (h.of_resolve hi hfound).1] at ha
  obtain ⟨target, htarget, rfl⟩ := Definition.resolve_eq_ok_iff.mp hfound
  rw [Definition.paths_chainTo, List.mem_filter, Option.any_eq_true] at ha
  obtain ⟨node, hnode, hnested⟩ := ha.2
  exact ⟨_, Definition.resolve_eq_ok_iff.mpr ⟨node, hnode, rfl⟩, hnested⟩

end Placement

/-- **A compiled tree can be relied on**: every name in it is expanded, every leaf and every boost
    keeps its rules, the fields of a leaf exist, share a chain and support their usage, and every
    scope around a leaf is a nested object wherever the leaf applies. -/
theorem compile_isReady {q : CompiledQuery} (h : compile scope config p = .ok q) :
    q.predicate.IsReady scope config := by
  obtain ⟨r, hr, hpredicate, -⟩ := compile_ok h
  have hderivation := derivation_of_place hr
  rw [hpredicate]
  refine ⟨(contained_of_place hr).invocations_eq_nil, hderivation.isWellFormed,
    hderivation.leaves_ready, ?_⟩
  rintro o ho a ha i hi ⟨f, hf, found, hfound⟩
  have hlists := Placement.expanding_faithful scope config config.maxExpansionDepth _ _ 0 p r
    (Frame.StandsIn.top scope) hr
  obtain ⟨l, hl, hdescribes⟩ := hlists.exists_leaf ho
  rw [Occurrence.within_nil] at hdescribes
  have hresolves := hderivation.leaves_resolve l hl f (hdescribes.fields_eq ▸ hf)
  exact hresolves.scope_nested (hdescribes.scopes_eq ▸ ha) hi hfound

/-- What `compile_isReady` says of a query with relative paths, scopes left unsaid, and names. -/
theorem compile_isReady_sample :
    ∃ q, compile Sample.scope .default Sample.query = .ok q ∧
      q.predicate.IsReady Sample.scope .default ∧
      q.predicate.fieldOccurrences.map (fun o => o.scopes.length) = [2, 3, 3, 3] := by
  have hscopes : (compile Sample.scope .default Sample.query).toOption.map (fun q =>
      q.predicate.fieldOccurrences.map fun o => o.scopes.length) = some [2, 3, 3, 3] := by
    decide +kernel
  cases hcompile : compile Sample.scope .default Sample.query with
  | error e =>
    rw [hcompile] at hscopes
    cases hscopes
  | ok q =>
    rw [hcompile] at hscopes
    exact ⟨q, rfl, compile_isReady hcompile, Option.some.inj hscopes⟩

end NestedSearch
