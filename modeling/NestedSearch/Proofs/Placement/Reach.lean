import Mathlib.Data.List.Forall2
import NestedSearch.Proofs.Placement.Derivation

/-!
# What a placed predicate refers to

Placement resolves every path before it writes it down, so what stands in a placed predicate is
known to the scope. Scopes that were written out are nested objects in every index that has them
(`Derivation.scopes_nested`), every nested node is an object of some index
(`Derivation.nestedNodes_known`), and leaves are used on fields that support it, if usages are
validated (`Derivation.leaves_supported`). And since nothing passes from one clause to the next,
a clause is placed as it would be on its own (`Derivation.clauses_eq`).
-/

namespace NestedSearch

/-- A usage that only nested objects support. -/
theorem Node.supports_nested_iff {node : Node} : node.supports .nested = true ↔
    node.isNested = true := by
  cases node with
  | value f => simp [supports, ValueField.supports, FieldType.allows, isNested]
  | object storage multiValued children => rfl

/-- The only leaves that objects support ask whether there is a value. -/
theorem PredicateKind.eq_exists_of_object {kind : PredicateKind} {usage : Usage}
    {storage : Storage} {multiValued : Bool} {children : Fields}
    (husage : kind.usage? = some usage)
    (h : (Node.object storage multiValued children).supports usage = true) : kind = .exists := by
  cases kind <;> cases husage <;> first | rfl | cases h

namespace Predicate

mutual

/-- The nested nodes, depth first: their paths, and what stands in them. -/
def nestedNodes : Predicate → List (FieldPath × Predicate)
  | .leaf _ | .named .. => []
  | .bool _ clauses => nestedNodesOf clauses
  | .not inner | .boosted inner _ | .constantScore inner => inner.nestedNodes
  | .nested path inner => (path, inner) :: inner.nestedNodes

def nestedNodesOf : List Predicate → List (FieldPath × Predicate)
  | [] => []
  | p :: ps => p.nestedNodes ++ nestedNodesOf ps

end

theorem nestedNodesOf_eq_flatMap (ps : List Predicate) :
    nestedNodesOf ps = ps.flatMap nestedNodes := by
  induction ps with
  | nil => rfl
  | cons p ps ih => rw [nestedNodesOf, ih, List.flatMap_cons]

theorem leavesOf_eq_flatMap (ps : List Predicate) : leavesOf ps = ps.flatMap leaves := by
  induction ps with
  | nil => rfl
  | cons p ps ih => rw [leavesOf, ih, List.flatMap_cons]

/-- A nested node of a wrapped predicate is one of the scopes around it or stands in it. -/
theorem mem_nestedNodes_within {scopes : List NestingScope} {p : Predicate}
    {n : FieldPath × Predicate} (h : n ∈ (p.within scopes).nestedNodes) :
    n.1 ∈ scopes.map NestingScope.path ∨ n ∈ p.nestedNodes := by
  induction scopes with
  | nil => exact .inr h
  | cons s rest ih =>
    rcases List.mem_cons.mp h with rfl | h
    · exact .inl List.mem_cons_self
    · exact (ih h).imp_left (List.mem_cons_of_mem s.path)

end Predicate

theorem NestingChain.mem_of_mem_after {c : NestingChain} {opened : Option FieldPath}
    {s : NestingScope} (h : s ∈ c.after opened) : s ∈ c.scopes := by
  cases opened with
  | none => exact h
  | some opened => exact (List.dropWhile_suffix _).subset h

namespace Placement

variable {scope : SearchScope} {config : CompilerConfig} {frame : Frame} {p : Predicate}
  {r : Placed}

/-- **A scope that is written out is a nested object**, in every index that has it and in at least
    one. -/
theorem Derivation.scopes_nested (h : Derivation scope config frame p r) :
    ∀ s ∈ r.scopes, (∃ i ∈ scope.indexes, ∃ node, i.schema.node? s.1 = some node) ∧
      ∀ i ∈ scope.indexes, ∀ node, i.schema.node? s.1 = some node → node.isNested = true := by
  induction h with
  | bare hcheck husage | leaf hcheck husage hfields | noClause => simp
  | clause hfirst hrest ihfirst ihrest =>
    intro s hs
    rcases List.mem_append.mp hs with hs | hs
    · exact ihfirst s hs
    · exact ihrest s hs
  | nested houter hrequire hinner ih =>
    intro s hs
    rcases List.mem_cons.mp hs with rfl | hs
    · rw [SearchScope.resolve_joinUnder] at houter
      have hagree := SearchScope.agreement houter
      rw [hagree.path_eq]
      exact ⟨hagree.some_index, fun i hi node hnode =>
        Node.supports_nested_iff.mp (hagree.supports hrequire hi hnode)⟩
    · exact ih s hs
  | named hfull htarget hprovider hproduced hinner ih => exact ih
  | not hinner ih | boosted hboost hinner ih | constantScore hinner ih => exact ih

/-- The scopes of a path that resolves are known to some index. -/
theorem exists_node_of_mem_chain {path : FieldPath} {usage : Usage} {outer : ScopedResolution}
    {opened : Option FieldPath} (h : scope.resolve none path usage = .ok outer) {a : FieldPath}
    (ha : a ∈ (outer.chain.after opened).map NestingScope.path) :
    ∃ i ∈ scope.indexes, ∃ node, i.schema.node? a = some node := by
  obtain ⟨i, hi, -, -, hchain⟩ := (SearchScope.agreement h).exists_chain
  obtain ⟨s, hs, rfl⟩ := List.mem_map.mp ha
  have hmem : s.path ∈ (i.schema.chainTo path).paths := by
    rw [hchain]
    exact List.mem_map_of_mem (NestingChain.mem_of_mem_after hs)
  rw [Definition.paths_chainTo, List.mem_filter, Option.any_eq_true] at hmem
  obtain ⟨node, hnode, -⟩ := hmem.2
  exact ⟨i, hi, node, hnode⟩

/-- **Every nested node of a placed predicate is an object of some index.** -/
theorem Derivation.nestedNodes_known (h : Derivation scope config frame p r) :
    ∀ n ∈ r.predicate.nestedNodes,
      ∃ i ∈ scope.indexes, ∃ node, i.schema.node? n.1 = some node := by
  induction h with
  | bare hcheck husage => simp [Predicate.nestedNodes]
  | leaf hcheck husage hfields =>
    intro n hn
    obtain ⟨hpaths, hresolves, -⟩ := resolveFields_ok hfields
    obtain ⟨f, hf⟩ := List.exists_mem_of_ne_nil _ (fields_ne_nil_of_check hcheck husage)
    obtain ⟨outer, houter, rfl, -⟩ := hresolves _ (hpaths ▸ List.mem_map_of_mem hf)
    rcases Predicate.mem_nestedNodes_within hn with hn | hn
    · exact exists_node_of_mem_chain houter hn
    · cases hn
  | noClause => simp [Predicate.nestedNodes, Predicate.nestedNodesOf]
  | clause hfirst hrest ihfirst ihrest =>
    intro n hn
    rcases List.mem_append.mp hn with hn | hn
    · exact ihfirst n hn
    · exact ihrest n hn
  | nested houter hrequire hinner ih =>
    intro n hn
    rcases Predicate.mem_nestedNodes_within hn with hn | hn
    · rw [SearchScope.resolve_joinUnder] at houter
      exact exists_node_of_mem_chain houter hn
    · exact ih n hn
  | named hfull htarget hprovider hproduced hinner ih =>
    intro n hn
    rcases Predicate.mem_nestedNodes_within hn with hn | hn
    · obtain ⟨-, -, rfl⟩ | ⟨place, outer, -, houter, -, rfl⟩ := target_ok htarget
      · cases hn
      · rw [SearchScope.resolve_joinUnder] at houter
        exact exists_node_of_mem_chain houter hn
    · exact ih n hn
  | not hinner ih | boosted hboost hinner ih | constantScore hinner ih => exact ih

/-- **Leaves are used on fields that support it**, in every index that has the field, if usages are
    validated. -/
theorem Derivation.leaves_supported (hvalidates : config.validateUsages = true)
    (h : Derivation scope config frame p r) :
    ∀ l ∈ r.predicate.leaves, ∀ usage, l.kind.usage? = some usage → ∀ f ∈ l.fields,
      ∀ i ∈ scope.indexes, ∀ node, i.schema.node? f = some node → node.supports usage = true := by
  refine h.forall_leaves ?_ ?_
  · intro l hcheck husage usage husage'
    cases husage.symm.trans husage'
  · intro l root usage fields chain hcheck husage hfields usage' husage' f hf i hi node hnode
    cases husage.symm.trans husage'
    obtain ⟨resolution, hresolution, -, hrequire⟩ := (resolveFields_ok hfields).2.1 f hf
    exact (SearchScope.agreement hresolution).supports (hrequire hvalidates) hi hnode

/-! ## One placement in many places -/

theorem target_congr {frame' : Frame} (hroot : frame'.root = frame.root)
    (hopened : frame'.opened = frame.opened) (full : FieldPath) :
    target scope frame' full = target scope frame full := by
  unfold target
  rw [hroot, hopened]

/-- **What a predicate is placed as depends on the scopes it stands in**, and not on what stands
    beside it: neither on the leaves that precede it nor on whether it is optional. -/
theorem Derivation.predicate_eq (h : Derivation scope config frame p r) :
    ∀ {frame' : Frame} {r' : Placed}, Derivation scope config frame' p r' →
      frame'.root = frame.root → frame'.opened = frame.opened → r'.predicate = r.predicate := by
  induction h with
  | bare hcheck husage =>
    intro frame' r' h' hroot hopened
    cases h' with
    | bare => rfl
    | leaf hcheck' husage' => cases husage.symm.trans husage'
  | leaf hcheck husage hfields =>
    intro frame' r' h' hroot hopened
    cases h' with
    | bare hcheck' husage' => cases husage.symm.trans husage'
    | leaf hcheck' husage' hfields' =>
      cases husage.symm.trans husage'
      rw [hroot] at hfields'
      cases hfields.symm.trans hfields'
      rw [hopened]
  | noClause =>
    intro frame' r' h' hroot hopened
    cases h'
    rfl
  | clause hfirst hrest ihfirst ihrest =>
    intro frame' r' h' hroot hopened
    cases h' with
    | clause hfirst' hrest' =>
      rw [ihfirst hfirst' hroot hopened]
      cases ihrest hrest' hroot hopened
      rfl
  | not hinner ih =>
    intro frame' r' h' hroot hopened
    cases h' with
    | not hinner' => exact congrArg Predicate.not (ih hinner' hroot hopened)
  | nested houter hrequire hinner ih =>
    intro frame' r' h' hroot hopened
    cases h' with
    | nested houter' hrequire' hinner' =>
      rw [hroot] at houter'
      cases houter.symm.trans houter'
      rw [hopened, ih hinner' rfl rfl]
  | named hfull htarget hprovider hproduced hinner ih =>
    intro frame' r' h' hroot hopened
    cases h' with
    | named hfull' htarget' hprovider' hproduced' hinner' =>
      rw [target_congr hroot hopened] at htarget'
      cases expansion_unique hfull htarget hprovider hproduced hfull' htarget' hprovider' hproduced'
      rw [ih hinner' rfl (by unfold Frame.expansion; rw [hopened])]
  | @boosted frame inner boost r hboost hinner ih =>
    intro frame' r' h' hroot hopened
    cases h' with
    | boosted hboost' hinner' =>
      exact congrArg (fun q => Predicate.boosted q boost) (ih hinner' hroot hopened)
  | constantScore hinner ih =>
    intro frame' r' h' hroot hopened
    cases h' with
    | constantScore hinner' => exact congrArg Predicate.constantScore (ih hinner' hroot hopened)

/-- Clauses are placed as they are on their own. -/
theorem Derivation.clauses_eq {operator : BoolOperator} {ps : List Predicate}
    (h : Derivation scope config frame (.bool operator ps) r) :
    ∀ {qs : List Predicate}, List.Forall₂ (fun p q => ∃ alone,
      Derivation scope config frame p alone ∧ q = alone.predicate) ps qs →
        r.predicate = .bool operator qs := by
  generalize hp : Predicate.bool operator ps = p at h
  induction h generalizing ps with
  | noClause =>
    intro qs hqs
    cases hp
    cases hqs
    rfl
  | clause hfirst hrest ihfirst ihrest =>
    intro qs hqs
    cases hp
    cases hqs with
    | cons hq hqs =>
      obtain ⟨alone, halone, rfl⟩ := hq
      cases ihrest rfl hqs
      rw [halone.predicate_eq hfirst rfl rfl]
  | _ => cases hp

end Placement
end NestedSearch
