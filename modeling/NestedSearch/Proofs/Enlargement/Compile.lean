import NestedSearch.Proofs.Compile
import NestedSearch.Proofs.Enlargement.Scope
import NestedSearch.Proofs.Placement.Containment
import NestedSearch.Proofs.Placement.Scoping
import NestedSearch.Proofs.Restriction.Placement

/-!
# Fields that a query does not mention

A query names fields by the segments of its paths, and so do the trees that providers make for it
(`SearchScope.Mentions`). Fields of other names may be added to the schemas of its scope, anywhere
in them: the query compiles as before, or fails as before (`compile_enlarged`).

Two runs are compared step by step. Both ask for the same paths, since a path that one of them
resolves consists of names that the query mentions, and the answers are the same up to what is below
a field.
-/

namespace NestedSearch

/-! ## What a query mentions -/

namespace Predicate

mutual

/-- The segments of the paths in the tree: of fields, of scopes and of names. -/
def names : Predicate → List String
  | .leaf l => l.fields.flatMap FieldPath.names
  | .bool _ clauses => namesOf clauses
  | .not inner | .boosted inner _ | .constantScore inner => inner.names
  | .nested path inner => path.names ++ inner.names
  | .named name _ => ((FieldPath.parse? name).map FieldPath.names).getD []

def namesOf : List Predicate → List String
  | [] => []
  | p :: ps => p.names ++ namesOf ps

end

end Predicate

/-- The registration is under the last segment of the name that is invoked. -/
def Invocation.Calls (invocation : Invocation) (e : Registration) : Prop :=
  ∃ full, FieldPath.parse invocation.name = .ok full ∧ e.name = full.last.name

/-- The name is a segment of a path in the predicate, or in a tree that a provider makes for it. -/
inductive SearchScope.Mentions (s : SearchScope) (name : String) : Predicate → Prop
  | written {p : Predicate} (h : name ∈ p.names) : Mentions s name p
  | made {p produced : Predicate} {invocation : Invocation} (hinvoked : invocation ∈ p.invocations)
      {i : TargetIndex} (hi : i ∈ s.indexes) {e : Registration} (he : e ∈ i.named.registrations)
      (hcalls : invocation.Calls e) (hproduced : e.provider.provide invocation = .ok produced)
      (h : Mentions s name produced) : Mentions s name p

/-- The predicate mentions no new name. -/
def SearchScope.Ignores (s : SearchScope) (new : String → Prop) (p : Predicate) : Prop :=
  ∀ name, new name → ¬ s.Mentions name p

variable {new : String → Prop} {s s' : SearchScope} {p q : Predicate}

namespace SearchScope

/-- A part of a predicate mentions nothing that the whole does not mention. -/
theorem Ignores.of_subset (h : s.Ignores new p) (hnames : q.names ⊆ p.names)
    (hinvocations : q.invocations ⊆ p.invocations) : s.Ignores new q := by
  intro name hnew hmentions
  refine h name hnew ?_
  cases hmentions with
  | written hwritten => exact .written (hnames hwritten)
  | made hinvoked hi he hcalls hproduced hmore =>
    exact .made (hinvocations hinvoked) hi he hcalls hproduced hmore

theorem Ignores.clause {operator : BoolOperator} {ps : List Predicate}
    (h : s.Ignores new (.bool operator (p :: ps))) :
    s.Ignores new p ∧ s.Ignores new (.bool operator ps) :=
  ⟨h.of_subset (List.subset_append_left _ _) (List.subset_append_left _ _),
    h.of_subset (List.subset_append_right _ _) (List.subset_append_right _ _)⟩

theorem Ignores.field {l : Leaf} (h : s.Ignores new (.leaf l)) : ∀ f ∈ l.fields, f.Avoids new := by
  intro f hf name hname hnew
  exact h name hnew (.written (List.mem_flatMap.mpr ⟨f, hf, hname⟩))

theorem Ignores.path {path : FieldPath} (h : s.Ignores new (.nested path p)) :
    path.Avoids new := by
  intro name hname hnew
  exact h name hnew (.written (List.mem_append_left _ hname))

theorem Ignores.inside {path : FieldPath} (h : s.Ignores new (.nested path p)) :
    s.Ignores new p :=
  h.of_subset (List.subset_append_right _ _) (List.Subset.refl _)

theorem Ignores.negated (h : s.Ignores new (.not p)) : s.Ignores new p :=
  h.of_subset (List.Subset.refl _) (List.Subset.refl _)

theorem Ignores.scored {boost : Float32} (h : s.Ignores new (.boosted p boost)) :
    s.Ignores new p :=
  h.of_subset (List.Subset.refl _) (List.Subset.refl _)

theorem Ignores.filtered (h : s.Ignores new (.constantScore p)) : s.Ignores new p :=
  h.of_subset (List.Subset.refl _) (List.Subset.refl _)

theorem Ignores.full {name : String} {params : ParamBag} {full : FieldPath}
    (h : s.Ignores new (.named name params)) (hfull : FieldPath.parse name = .ok full) :
    full.Avoids new := by
  intro segment hsegment hnew
  refine h segment hnew (.written ?_)
  have hparse : FieldPath.parse? name = some full := by
    unfold FieldPath.parse?
    rw [hfull]
    rfl
  unfold Predicate.names
  rw [hparse]
  exact hsegment

end SearchScope

/-- The path before the last segment avoids what the path avoids. -/
theorem FieldPath.Avoids.parent {full place : FieldPath} (h : full.Avoids new)
    (hparent : full.parent? = some place) : place.Avoids new := by
  have hsegments : place.segments = full.segments.dropLast := by
    unfold parent? at hparent
    cases hdrop : full.segments.dropLast with
    | nil => simp [hdrop, ofSegments?] at hparent
    | cons head tail =>
      rw [hdrop] at hparent
      cases hparent
      rfl
  intro name hname
  refine h name ?_
  unfold names at hname ⊢
  rw [hsegments] at hname
  exact List.map_subset _ (List.dropLast_subset _) hname

/-- Where a path leads that avoids new names. -/
theorem SearchScope.avoids_of_resolve {root : Option FieldPath} {path : FieldPath} {usage : Usage}
    {r : ScopedResolution} (h : s.resolve root path usage = .ok r)
    (hroot : ∀ q ∈ root, q.Avoids new) (hpath : path.Avoids new) : r.path.Avoids new := by
  rw [resolve_joinUnder] at h
  rw [(agreement h).path_eq]
  exact hpath.joinUnder hroot

namespace Placement

variable {config : CompilerConfig} {frame : Frame}

/-! ## Leaves -/

theorem resolveFields_enlarged (h : s.Enlarged new s') {root : Option FieldPath}
    (hroot : ∀ r ∈ root, r.Avoids new) (usage : Usage) {fields : List FieldPath}
    (hfields : ∀ f ∈ fields, f.Avoids new) (first : Option (FieldPath × NestingChain)) :
    resolveFields s' config root usage first fields =
      resolveFields s config root usage first fields := by
  induction fields generalizing first with
  | nil => rfl
  | cons field rest ih =>
    obtain ⟨hfield, hrest⟩ := List.forall_mem_cons.mp hfields
    unfold resolveFields
    refine bind_eq_of_map_eq (h.resolve_eq hroot hfield usage) fun r' r _ houtline => ?_
    obtain ⟨hpath, hchain, -, hrequire⟩ := ScopedResolution.eq_of_outline houtline
    simp only [hpath, hchain, hrequire, ih hrest]

theorem leaf_enlarged (h : s.Enlarged new s') (hroot : ∀ r ∈ frame.root, r.Avoids new) (used : Nat)
    {l : Leaf} (hl : s.Ignores new (.leaf l)) :
    leaf s' config frame used l = leaf s config frame used l := by
  unfold leaf
  simp only [resolveFields_enlarged h hroot _ hl.field]

/-! ## Named predicates -/

theorem candidates_enlarged (h : s.Enlarged new s') {node : Option FieldPath}
    (hnode : ∀ path ∈ node, path.Avoids new) (name : String) :
    candidates s' node name = candidates s node name := by
  cases node with
  | none =>
    refine h.map_eq fun i i' hname hnamed _ => ?_
    rw [hname, hnamed]
  | some path =>
    have hlist : ∀ t : SearchScope, candidates t (some path) name =
        (t.indexes.map fun i => if (i.schema.node? path).isSome
          then some (i.name, i.named.get? (some path) name) else none).filterMap id := by
      intro t
      unfold candidates
      rw [List.filterMap_map, ← List.filterMap_eq_map, List.filterMap_filter]
      refine List.filterMap_congr fun i _ => ?_
      by_cases hfound : (i.schema.node? path).isSome <;> simp [hfound]
    rw [hlist, hlist, h.map_eq]
    intro i i' hname hnamed hfields
    have houtline := Definition.resolve_enlarged hname hfields (hnode path rfl)
    rw [Definition.isSome_node?_of_outline houtline, hname, hnamed]

theorem lookup_enlarged (h : s.Enlarged new s') {node : Option FieldPath}
    (hnode : ∀ path ∈ node, path.Avoids new) (name : String) (full : FieldPath) :
    lookup s' node name full = lookup s node name full := by
  unfold lookup
  rw [candidates_enlarged h hnode]

theorem target_enlarged (h : s.Enlarged new s') (hroot : ∀ r ∈ frame.root, r.Avoids new)
    {full : FieldPath} (hfull : full.Avoids new) :
    target s' frame full = target s frame full := by
  unfold target
  cases hparent : full.parent? with
  | none => rfl
  | some place =>
    refine bind_eq_of_map_eq (h.resolve_eq hroot (hfull.parent hparent) .named)
      fun r' r _ houtline => ?_
    obtain ⟨hpath, hchain, hkind, hrequire⟩ := ScopedResolution.eq_of_outline houtline
    rw [hpath, hchain, hkind, hrequire]

/-- The node that a name leads to avoids new names. -/
theorem avoids_of_target (hroot : ∀ r ∈ frame.root, r.Avoids new) {full : FieldPath}
    (hfull : full.Avoids new) {node : Option FieldPath} {residual : List NestingScope}
    (h : target s frame full = .ok (node, residual)) : ∀ path ∈ node, path.Avoids new := by
  obtain ⟨-, rfl, -⟩ | ⟨place, r, hparent, hr, rfl, -⟩ := target_ok h
  · exact hroot
  · intro path hpath
    cases hpath
    exact SearchScope.avoids_of_resolve hr hroot (hfull.parent hparent)

/-- What a name stands for mentions no new name. -/
theorem ignores_of_provide {name : String} {params : ParamBag} {full : FieldPath}
    {node : Option FieldPath} {provider : Provider} {produced : Predicate}
    (h : s.Ignores new (.named name params)) (hfull : FieldPath.parse name = .ok full)
    (hprovider : lookup s node full.last.name full = .ok provider)
    (hproduced : provider.provide ⟨name, params⟩ = .ok produced) : s.Ignores new produced := by
  obtain ⟨i, hi, e, he, hname, rfl⟩ := exists_registration_of_lookup hprovider
  intro segment hnew hmentions
  exact h segment hnew
    (.made List.mem_cons_self hi he ⟨full, hfull, hname⟩ hproduced hmentions)

/-- A name stands for the same. -/
theorem invoke_enlarged (h : s.Enlarged new s') (hroot : ∀ r ∈ frame.root, r.Avoids new)
    {name : String} {params : ParamBag} (hp : s.Ignores new (.named name params)) :
    invoke s' frame name params = invoke s frame name params := by
  unfold invoke
  cases hfull : FieldPath.parse name with
  | error cause => rfl
  | ok full =>
    have havoids := hp.full hfull
    simp only [target_enlarged h hroot havoids]
    cases htarget : target s frame full with
    | error e => rfl
    | ok t =>
      show (lookup s' t.1 full.last.name full >>= _) = (lookup s t.1 full.last.name full >>= _)
      rw [lookup_enlarged h (avoids_of_target hroot havoids htarget)]

/-! ## Trees -/

/-- A scope that is written out leads to the same object, up to what is below it. -/
theorem enter_enlarged (h : s.Enlarged new s') (hroot : ∀ r ∈ frame.root, r.Avoids new)
    {path : FieldPath} (hpath : path.Avoids new) :
    (enter s' frame path).map ScopedResolution.outline =
      (enter s frame path).map ScopedResolution.outline := by
  have hmap (t : SearchScope) : (enter t frame path).map ScopedResolution.outline =
      t.resolve frame.root path .nested >>= fun r =>
        (r.require .nested).map fun _ => r.outline := by
    unfold enter
    cases t.resolve frame.root path .nested with
    | error e => rfl
    | ok r =>
      show ((r.require .nested >>= _) : Except _ _).map _ = (r.require .nested).map _
      cases r.require .nested <;> rfl
  rw [hmap, hmap]
  refine bind_eq_of_map_eq (h.resolve_eq hroot hpath .nested) fun r' r _ houtline => ?_
  rw [houtline, (ScopedResolution.eq_of_outline houtline).2.2.2]

/-- Two ways to place predicates that do the same with what mentions no new name. -/
def Step.Agrees (new : String → Prop) (s : SearchScope) (step' step : Step) : Prop :=
  ∀ frame used p, (∀ r ∈ frame.root, r.Avoids new) → s.Ignores new p →
    step' frame used p = step frame used p

/-- However deeply named predicates stand inside one another. -/
theorem expanding_enlarged (h : s.Enlarged new s') (config : CompilerConfig) (depth : Nat) :
    Step.Agrees new s (expanding s' config depth) (expanding s config depth) := by
  intro frame used p hroot hp
  induction depth, frame, p using expanding_induction generalizing used with
  | leaf depth frame l =>
    rw [expanding_leaf, expanding_leaf, leaf_enlarged h hroot used hp]
  | noClause depth frame operator =>
    rw [expanding_noClause, expanding_noClause]
  | clause depth frame operator p ps ihp ihps =>
    obtain ⟨hfirst, hrest⟩ := hp.clause
    rw [expanding_clause, expanding_clause, ihp used hroot hfirst]
    simp only [ihps _ hroot hrest]
  | not depth frame inner ih =>
    rw [expanding_not, expanding_not, ih used hroot hp.negated]
  | nested depth frame path inner ih =>
    rw [expanding_enter, expanding_enter]
    refine bind_eq_of_map_eq (enter_enlarged h hroot hp.path) fun r' r hr houtline => ?_
    obtain ⟨hpath, hchain, -⟩ := ScopedResolution.eq_of_outline houtline
    have hplace := SearchScope.avoids_of_resolve (enter_eq_ok_iff.mp hr).1 hroot hp.path
    rw [hpath, hchain, ih _ used (by rintro q ⟨⟩; exact hplace) hp.inside]
  | boosted depth frame inner boost ih =>
    rw [expanding_boost, expanding_boost, ih used hroot hp.scored]
  | constantScore depth frame inner ih =>
    rw [expanding_constantScore, expanding_constantScore, ih used hroot hp.filtered]
  | unexpanded frame name params =>
    rw [expanding_none, expanding_none]
  | named depth frame name params ih =>
    rw [expanding_invoke, expanding_invoke, invoke_enlarged h hroot hp]
    cases hx : invoke s frame name params with
    | error e => rfl
    | ok x =>
      obtain ⟨full, provider, hfull, htarget, hprovider, hproduced⟩ := invoke_eq_ok_iff.mp hx
      have hnode := avoids_of_target hroot (hp.full hfull) htarget
      have hignores := ignores_of_provide hp hfull hprovider hproduced
      exact congrArg (Except.map _) (ih (frame.expansion x.node x.residual) _ used hnode hignores)

/-! ## The fields to be compared -/

/-- **Everything that a placed predicate refers to avoids new names.** -/
theorem Derivation.avoids {r : Placed} (h : Derivation s config frame p r) :
    (∀ q ∈ frame.root, q.Avoids new) → s.Ignores new p →
      (∀ l ∈ r.leaves, ∀ f ∈ l.fields, f.Avoids new) ∧ ∀ scope ∈ r.scopes, scope.1.Avoids new := by
  induction h with
  | bare hcheck husage => exact fun _ _ => ⟨by simp, by simp⟩
  | leaf hcheck husage hfields =>
    intro hroot hp
    refine ⟨?_, by simp⟩
    intro l hl f hf
    cases List.mem_singleton.mp hl
    rw [(resolveFields_ok hfields).1] at hf
    obtain ⟨relative, hrelative, rfl⟩ := List.mem_map.mp hf
    exact (hp.field relative hrelative).joinUnder hroot
  | noClause => exact fun _ _ => ⟨by simp, by simp⟩
  | clause hfirst hrest ihfirst ihrest =>
    intro hroot hps
    obtain ⟨hp, hothers⟩ := hps.clause
    obtain ⟨hleaves, hscopes⟩ := ihfirst hroot hp
    obtain ⟨hmoreLeaves, hmoreScopes⟩ := ihrest hroot hothers
    exact ⟨List.forall_mem_append.mpr ⟨hleaves, hmoreLeaves⟩,
      List.forall_mem_append.mpr ⟨hscopes, hmoreScopes⟩⟩
  | nested houter hrequire hinner ih =>
    intro hroot hp
    have hplace := SearchScope.avoids_of_resolve houter hroot hp.path
    obtain ⟨hleaves, hscopes⟩ := ih (by rintro q ⟨⟩; exact hplace) hp.inside
    exact ⟨hleaves, List.forall_mem_cons.mpr ⟨hplace, hscopes⟩⟩
  | named hfull htarget hprovider hproduced hinner ih =>
    intro hroot hp
    exact ih (avoids_of_target hroot (hp.full hfull) htarget)
      (ignores_of_provide hp hfull hprovider hproduced)
  | not hinner ih => exact fun hroot hp => ih hroot hp.negated
  | boosted hboost hinner ih => exact fun hroot hp => ih hroot hp.scored
  | constantScore hinner ih => exact fun hroot hp => ih hroot hp.filtered

end Placement

/-! ## Whole queries -/

theorem place_enlarged (h : s.Enlarged new s') (config : CompilerConfig) (hp : s.Ignores new p) :
    place s' config p = place s config p :=
  Placement.expanding_enlarged h config config.maxExpansionDepth .top 0 p (by simp [Frame.top]) hp

theorem checkFieldsAcross_enlarged (h : s.Enlarged new s') (policy : OptionalConflictPolicy)
    {checks : List FieldCheck} (hchecks : ∀ c ∈ checks, c.field.Avoids new)
    (recorded : List Diagnostic) :
    checkFieldsAcross s'.schemas policy recorded checks =
      checkFieldsAcross s.schemas policy recorded checks := by
  induction checks generalizing recorded with
  | nil => rfl
  | cons c rest ih =>
    obtain ⟨hc, hrest⟩ := List.forall_mem_cons.mp hchecks
    unfold checkFieldsAcross
    simp only [checkCompatibility_of_outlines (h.sameOutline hc), ih hrest]

theorem comparison_enlarged (h : s.Enlarged new s') {config : CompilerConfig}
    (hp : s.Ignores new p) {r : Placed} (hr : place s config p = .ok r) :
    comparison s' config r = comparison s config r := by
  obtain ⟨hleaves, hscopes⟩ :=
    (derivation_of_place hr).avoids (by simp [Frame.top]) hp
  unfold comparison
  rw [h.isMultiIndex_eq, checkFieldsAcross_enlarged h]
  intro c hc
  obtain ⟨l, hl, f, hf, rfl⟩ | ⟨scope, hscope, rfl⟩ := Placement.mem_checks_iff.mp hc
  · exact hleaves l hl f hf
  · exact hscopes scope hscope

/-- **Fields that a query does not mention do not matter to it**: with or without them it compiles
    to the same query, or fails with the same error. -/
theorem compile_enlarged {s s' : SearchScope} {p : Predicate}
    (h : s.Enlarged (fun name => ¬ s.Mentions name p) s') (config : CompilerConfig) :
    compile s' config p = compile s config p := by
  have hp : s.Ignores (fun name => ¬ s.Mentions name p) p := fun _ hnot => hnot
  rw [compile_eq, compile_eq, place_enlarged h config hp, h.indexNames_eq]
  cases hr : place s config p with
  | error e => rfl
  | ok r =>
    show (comparison s' config r >>= _) = (comparison s config r >>= _)
    rw [comparison_enlarged h hp hr]

namespace Sample

/-- A shop that also knows gifts: of orders, of notes, and some that are no part of an order. -/
def giftShop : Schema where
  index := "shop"
  fields :=
    [("gift", .object .nested false [("orders", .value (.ofType .long))]),
      ("orders", .object .nested true
        [("lines", .object .nested true
          [("sku", .value (.ofType .string)),
            ("note", .object .flattened false
              [("gift", .value (.ofType .boolean)),
                ("tag", .object .nested true [("label", .value (.ofType .string))])])]),
          ("gift", .object .flattened true [("lines", .value .keyword)])])]
  valid := by decide +kernel

/-- The scope `Sample.scope` with gifts in the shop. -/
def giftScope : SearchScope where
  indexes := [⟨giftShop, ⟨[⟨some ⟨orders, [lines, note]⟩, "labelled", labelled⟩]⟩⟩, .ofSchema blog]
  nonempty := by simp
  distinct := by decide +kernel

/-- Neither the query nor what `labelled` makes for it speaks of gifts. -/
theorem not_mentions_gift : ¬ scope.Mentions "gift" query := by
  intro h
  cases h with
  | written h => exact absurd h (by decide +kernel)
  | made hinvoked hi he hcalls hproduced h =>
    simp only [scope, TargetIndex.ofSchema, Registry.empty, List.mem_cons, List.not_mem_nil,
      or_false] at hi
    obtain rfl | rfl := hi
    · cases List.mem_singleton.mp he
      cases hproduced
      cases h with
      | written h => exact absurd h (by decide +kernel)
      | made hinvoked => exact absurd hinvoked List.not_mem_nil
    · exact absurd he List.not_mem_nil

theorem scope_enlarged : scope.Enlarged (fun name => ¬ scope.Mentions name query) giftScope := by
  refine .cons ⟨rfl, rfl, ?_⟩ (.cons ⟨rfl, rfl, .kept (.value _) .nil⟩ .nil)
  refine .added not_mentions_gift (.kept (.object _ _ ?_) .nil)
  refine .kept (.object _ _ (.kept (.value _) (.kept (.object _ _ ?_) .nil)))
    (.added not_mentions_gift .nil)
  exact .added not_mentions_gift (.kept (.object _ _ (.kept (.value _) .nil)) .nil)

end Sample

/-- What `compile_enlarged` says of a query about orders when the shop has gifts. -/
theorem compile_enlarged_sample :
    Sample.scope.Enlarged (fun name => ¬ Sample.scope.Mentions name Sample.query)
        Sample.giftScope ∧
      ∃ q, compile Sample.scope .default Sample.query = .ok q ∧
        compile Sample.giftScope .default Sample.query = .ok q := by
  have hcompiles : (compile Sample.scope .default Sample.query).toOption.isSome = true := by
    decide +kernel
  obtain ⟨q, hq⟩ := exists_of_isSome_toOption hcompiles
  refine ⟨Sample.scope_enlarged, q, hq, ?_⟩
  rw [compile_enlarged Sample.scope_enlarged]
  exact hq

end NestedSearch
