import NestedSearch.Proofs.Placement.Unfolding

/-!
# Placements as derivations

Placing a tree carries along what only matters while it runs: how many leaves precede, and how a
name is expanded at this depth. What a placed predicate looks like depends on neither, and
`Derivation` leaves both out. It has one case for each node, with all that its success says, so
that a property of placed predicates is one induction on derivations.

Two such properties follow here: every leaf keeps the rules for leaves, wherever it comes from
(`Derivation.check_leaves`), and what is listed about a leaf is true of its fields
(`Derivation.leaves_resolve`).
-/

namespace NestedSearch
namespace Placement

/-- A predicate that stands in a frame, and what it is placed as. -/
inductive Derivation (scope : SearchScope) (config : CompilerConfig) :
    Frame → Predicate → Placed → Prop
  /-- A leaf that targets no field. -/
  | bare {frame : Frame} {l : Leaf} (hcheck : l.check = .ok ()) (husage : l.kind.usage? = none) :
      Derivation scope config frame (.leaf l) ⟨.leaf l, [], []⟩
  | leaf {frame : Frame} {l : Leaf} {usage : Usage} {fields : List FieldPath}
      {chain : NestingChain} (hcheck : l.check = .ok ()) (husage : l.kind.usage? = some usage)
      (hfields : resolveFields scope config frame.root usage none l.fields = .ok (fields, chain)) :
      Derivation scope config frame (.leaf l)
        ⟨(Predicate.leaf ⟨fields, l.kind⟩).within (chain.after frame.opened),
          [⟨fields, usage, l.kind.analysis, chain, frame.optional⟩], []⟩
  | noClause {frame : Frame} {operator : BoolOperator} :
      Derivation scope config frame (.bool operator []) ⟨.bool operator [], [], []⟩
  | clause {frame : Frame} {operator : BoolOperator} {p : Predicate} {ps qs : List Predicate}
      {r : Placed} {leaves : List ResolvedLeaf} {scopes : List (FieldPath × Bool)}
      (hfirst : Derivation scope config (frame.clause operator) p r)
      (hrest : Derivation scope config frame (.bool operator ps)
        ⟨.bool operator qs, leaves, scopes⟩) :
      Derivation scope config frame (.bool operator (p :: ps))
        ⟨.bool operator (r.predicate :: qs), r.leaves ++ leaves, r.scopes ++ scopes⟩
  | not {frame : Frame} {inner : Predicate} {r : Placed}
      (hinner : Derivation scope config frame inner r) :
      Derivation scope config frame (.not inner) { r with predicate := .not r.predicate }
  | nested {frame : Frame} {path : FieldPath} {inner : Predicate} {outer : ScopedResolution}
      {r : Placed} (houter : scope.resolve frame.root path .nested = .ok outer)
      (hrequire : outer.require .nested = .ok ())
      (hinner : Derivation scope config
        { frame with root := some outer.path, opened := some outer.path } inner r) :
      Derivation scope config frame (.nested path inner)
        ⟨r.predicate.within (outer.chain.after frame.opened), r.leaves,
          (outer.path, frame.optional) :: r.scopes⟩
  | named {frame : Frame} {name : String} {params : ParamBag} {full : FieldPath}
      {node : Option FieldPath} {residual : List NestingScope} {provider : Provider}
      {produced : Predicate} {r : Placed} (hfull : FieldPath.parse name = .ok full)
      (htarget : target scope frame full = .ok (node, residual))
      (hprovider : lookup scope node full.last.name full = .ok provider)
      (hproduced : provider.provide ⟨name, params⟩ = .ok produced)
      (hinner : Derivation scope config (frame.expansion node residual) produced r) :
      Derivation scope config frame (.named name params)
        { r with predicate := r.predicate.within residual }
  | boosted {frame : Frame} {inner : Predicate} {boost : Float32} {r : Placed}
      (hboost : checkBoost boost = .ok ()) (hinner : Derivation scope config frame inner r) :
      Derivation scope config frame (.boosted inner boost)
        { r with predicate := .boosted r.predicate boost }
  | constantScore {frame : Frame} {inner : Predicate} {r : Placed}
      (hinner : Derivation scope config frame inner r) :
      Derivation scope config frame (.constantScore inner)
        { r with predicate := .constantScore r.predicate }

variable {scope : SearchScope} {config : CompilerConfig} {frame : Frame}

/-! ## Every placement has a derivation -/

/-- However deeply named predicates may stand inside one another. -/
theorem expanding_derives {depth used : Nat} {p : Predicate} {r : Placed}
    (h : expanding scope config depth frame used p = .ok r) :
    Derivation scope config frame p r := by
  induction depth, frame, p using expanding_induction generalizing used r with
  | leaf depth frame l =>
    rw [expanding_leaf] at h
    obtain ⟨hcheck, ⟨husage, rfl⟩ | ⟨usage, fields, chain, husage, hfields, rfl⟩⟩ := leaf_ok h
    · exact .bare hcheck husage
    · exact .leaf hcheck husage hfields
  | noClause depth frame operator =>
    rw [expanding_noClause] at h
    cases h
    exact .noClause
  | clause depth frame operator p ps ihp ihps =>
    rw [expanding_clause] at h
    obtain ⟨first, hfirst, h⟩ := bind_eq_ok_iff.mp h
    obtain ⟨⟨predicate, leaves, scopes⟩, hrest, rfl⟩ := map_eq_ok_iff.mp h
    obtain ⟨qs, rfl⟩ := exists_bool_of_expanding _ _ _ _ _ hrest
    exact .clause (ihp hfirst) (ihps hrest)
  | not depth frame inner ih =>
    rw [expanding_not] at h
    obtain ⟨placed, hplaced, rfl⟩ := map_eq_ok_iff.mp h
    exact .not (ih hplaced)
  | nested depth frame path inner ih =>
    rw [expanding_enter] at h
    obtain ⟨outer, houter, h⟩ := bind_eq_ok_iff.mp h
    obtain ⟨placed, hplaced, rfl⟩ := map_eq_ok_iff.mp h
    obtain ⟨houter, hrequire⟩ := enter_eq_ok_iff.mp houter
    exact .nested houter hrequire (ih _ hplaced)
  | boosted depth frame inner boost ih =>
    rw [expanding_boost] at h
    cases hboost : checkBoost boost with
    | error fault =>
      rw [hboost] at h
      cases h
    | ok _ =>
      rw [hboost] at h
      obtain ⟨placed, hplaced, rfl⟩ := map_eq_ok_iff.mp h
      exact .boosted hboost (ih hplaced)
  | constantScore depth frame inner ih =>
    rw [expanding_constantScore] at h
    obtain ⟨placed, hplaced, rfl⟩ := map_eq_ok_iff.mp h
    exact .constantScore (ih hplaced)
  | unexpanded frame name params =>
    rw [expanding_none] at h
    cases h
  | named depth frame name params ih =>
    rw [expanding_invoke] at h
    obtain ⟨x, hx, h⟩ := bind_eq_ok_iff.mp h
    obtain ⟨placed, hplaced, rfl⟩ := map_eq_ok_iff.mp h
    obtain ⟨full, provider, hfull, htarget, hprovider, hproduced⟩ := invoke_eq_ok_iff.mp hx
    exact .named hfull htarget hprovider hproduced (ih _ _ hplaced)

end Placement

theorem derivation_of_place {scope : SearchScope} {config : CompilerConfig} {p : Predicate}
    {r : Placed} (h : place scope config p = .ok r) :
    Placement.Derivation scope config .top p r :=
  Placement.expanding_derives h

namespace Placement

variable {scope : SearchScope} {config : CompilerConfig} {frame : Frame} {p : Predicate}
  {r : Placed}

/-! ## The rules for leaves -/

/-- Scopes around a tree add no leaves. -/
@[simp] theorem leaves_within (scopes : List NestingScope) (p : Predicate) :
    (p.within scopes).leaves = p.leaves := by
  induction scopes with
  | nil => rfl
  | cons s rest ih => exact ih

/-- The rules for a leaf look at how many fields there are, not at which ones. -/
theorem check_congr {l : Leaf} {fields : List FieldPath} (h : fields.length = l.fields.length) :
    Leaf.check ⟨fields, l.kind⟩ = l.check := by
  unfold Leaf.check
  rw [h]

/-- What holds of every leaf that is placed holds of all leaves of a placed predicate, also of those
    that come from named predicates. -/
theorem Derivation.forall_leaves {holds : Leaf → Prop}
    (hbare : ∀ l, l.check = .ok () → l.kind.usage? = none → holds l)
    (hleaf : ∀ (l : Leaf) root usage fields chain, l.check = .ok () →
      l.kind.usage? = some usage →
      resolveFields scope config root usage none l.fields = .ok (fields, chain) →
        holds ⟨fields, l.kind⟩)
    (h : Derivation scope config frame p r) : ∀ l ∈ r.predicate.leaves, holds l := by
  induction h with
  | bare hcheck husage =>
    intro l hl
    cases List.mem_singleton.mp hl
    exact hbare _ hcheck husage
  | leaf hcheck husage hfields =>
    intro l hl
    rw [leaves_within] at hl
    cases List.mem_singleton.mp hl
    exact hleaf _ _ _ _ _ hcheck husage hfields
  | noClause =>
    intro l hl
    cases hl
  | clause hfirst hrest ihfirst ihrest =>
    intro l hl
    rcases List.mem_append.mp hl with hl | hl
    · exact ihfirst l hl
    · exact ihrest l hl
  | nested houter hrequire hinner ih =>
    intro l hl
    rw [leaves_within] at hl
    exact ih l hl
  | named hfull htarget hprovider hproduced hinner ih =>
    intro l hl
    rw [leaves_within] at hl
    exact ih l hl
  | not hinner ih | boosted hboost hinner ih | constantScore hinner ih => exact ih

/-- **The leaves of a placed predicate keep the rules for leaves.** -/
theorem Derivation.check_leaves (h : Derivation scope config frame p r) :
    ∀ l ∈ r.predicate.leaves, l.check = .ok () := by
  refine h.forall_leaves (fun l hcheck _ => hcheck) ?_
  intro l root usage fields chain hcheck husage hfields
  rw [check_congr (by rw [(resolveFields_ok hfields).1, List.length_map])]
  exact hcheck

/-! ## The leaves that are listed -/

/-- **The fields of the leaves that are listed resolve in the scope.** -/
theorem Derivation.leaves_resolve (h : Derivation scope config frame p r) :
    ∀ l ∈ r.leaves, ∀ f ∈ l.fields, FieldResolves scope config l.usage l.chain f := by
  induction h with
  | bare hcheck husage | noClause => simp
  | leaf hcheck husage hfields =>
    intro l hl
    cases List.mem_singleton.mp hl
    exact (resolveFields_ok hfields).2.1
  | clause hfirst hrest ihfirst ihrest => exact List.forall_mem_append.mpr ⟨ihfirst, ihrest⟩
  | nested houter hrequire hinner ih => exact ih
  | named hfull htarget hprovider hproduced hinner ih => exact ih
  | not hinner ih | boosted hboost hinner ih | constantScore hinner ih => exact ih

end Placement
end NestedSearch
