import NestedSearch.Proofs.Placement.Unfolding
import NestedSearch.Proofs.Restriction.Scope

/-!
# Placing a query in a part of the indexes

Placement asks the scope for three things: where a path leads, whether a usage is supported there,
and which provider a name stands for. For each of them the answers of a scope and of a part of it
go together, and so do the placed predicates (`place_restricted`).
-/

namespace NestedSearch

/-! ## Providers -/

/-- The index has the node: an object field, or the index as a whole. -/
def TargetIndex.Has (i : TargetIndex) (node : Option FieldPath) : Prop :=
  ∀ path, node = some path → (i.schema.node? path).isSome = true

@[simp]
theorem TargetIndex.has_none (i : TargetIndex) : i.Has none := nofun

@[simp]
theorem TargetIndex.has_some_iff {i : TargetIndex} {path : FieldPath} :
    i.Has (some path) ↔ (i.schema.node? path).isSome = true := by
  simp [TargetIndex.Has]

namespace SearchScope

/-- Some index of the scope has the node. -/
def Has (s : SearchScope) (node : Option FieldPath) : Prop := ∃ i ∈ s.indexes, i.Has node

theorem has_none (s : SearchScope) : s.Has none := by
  obtain ⟨i, rest, hi⟩ := List.exists_cons_of_ne_nil s.nonempty
  exact ⟨i, hi ▸ List.mem_cons_self, i.has_none⟩

theorem Agreement.has {s : SearchScope} {p : FieldPath} {r : ScopedResolution}
    (h : s.Agreement p r) : s.Has (some r.path) := by
  obtain ⟨i, hi, node, hnode⟩ := h.some_index
  exact ⟨i, hi, TargetIndex.has_some_iff.mpr (by rw [h.path_eq, hnode]; rfl)⟩

/-- A key stands for one provider only: it says which registrations share a provider. -/
def KeysIdentify (s : SearchScope) : Prop :=
  ∀ i ∈ s.indexes, ∀ j ∈ s.indexes, ∀ a ∈ i.named.registrations, ∀ b ∈ j.named.registrations,
    a.provider.key = b.provider.key → a.provider = b.provider

theorem KeysIdentify.of_part {s s' : SearchScope} (h : s'.KeysIdentify)
    (hpart : s.indexes ⊆ s'.indexes) : s.KeysIdentify :=
  fun i hi j hj => h i (hpart hi) j (hpart hj)

end SearchScope

namespace Placement

variable {s s' scope : SearchScope} {node : Option FieldPath} {name : String} {full : FieldPath}

theorem mem_candidates_iff {x : String × Option Provider} :
    x ∈ candidates scope node name ↔
      ∃ i ∈ scope.indexes, i.Has node ∧ x = (i.name, i.named.get? node name) := by
  cases node with
  | none => simp [candidates, @eq_comm _ _ x]
  | some path => simp [candidates, @eq_comm _ _ x, and_assoc]

/-- The candidates that have a provider. -/
def registered (scope : SearchScope) (node : Option FieldPath) (name : String) :
    List (String × Provider) :=
  (candidates scope node name).filterMap fun c => c.2.map fun p => (c.1, p)

theorem mem_registered_iff {x : String × Provider} :
    x ∈ registered scope node name ↔ (x.1, some x.2) ∈ candidates scope node name := by
  unfold registered
  rw [List.mem_filterMap]
  constructor
  · rintro ⟨⟨index, provider?⟩, hmem, h⟩
    obtain ⟨p, rfl, rfl⟩ := Option.map_eq_some_iff.mp h
    exact hmem
  · intro hmem
    exact ⟨_, hmem, rfl⟩

theorem eq_of_mem_registered (hkeys : scope.KeysIdentify) {x y : String × Provider}
    (hx : x ∈ registered scope node name) (hy : y ∈ registered scope node name)
    (hkey : x.2.key = y.2.key) : x.2 = y.2 := by
  have hfrom {z : String × Provider} (hz : z ∈ registered scope node name) :
      ∃ i ∈ scope.indexes, ∃ a ∈ i.named.registrations, a.provider = z.2 := by
    obtain ⟨i, hi, -, heq⟩ := mem_candidates_iff.mp (mem_registered_iff.mp hz)
    obtain ⟨a, hfind, ha⟩ := Option.map_eq_some_iff.mp (Prod.mk.inj heq).2.symm
    exact ⟨i, hi, a, List.mem_of_find?_eq_some hfind, ha⟩
  obtain ⟨i, hi, a, ha, hax⟩ := hfrom hx
  obtain ⟨j, hj, b, hb, hby⟩ := hfrom hy
  rw [← hax, ← hby] at hkey ⊢
  exact hkeys i hi j hj a ha b hb hkey

/-- A lookup goes by the candidates that have a provider. -/
theorem lookup_eq (scope : SearchScope) (node : Option FieldPath) (name : String)
    (full : FieldPath) :
    lookup scope node name full = match registered scope node name with
    | [] => .error (.unknownNamedPredicate name node
        (((candidates scope node name).head?.map (·.1)).getD ""))
    | (index, provider) :: others =>
      match others.find? fun o => o.2.key ≠ provider.key with
      | some other => .error (namedConflict full index other.1 "registered (different factory)")
      | none =>
        match (candidates scope node name).find? fun c => c.2.isNone with
        | some missing => .error (namedConflict full index missing.1 "not registered")
        | none => .ok provider := rfl

/-- All that a lookup can come to: no candidate has a provider, two candidates differ, or all of
    them have the provider of the first. -/
theorem lookup_cases (scope : SearchScope) (node : Option FieldPath) (name : String)
    (full : FieldPath) :
    (registered scope node name = [] ∧
        ∃ index, lookup scope node name full = .error (.unknownNamedPredicate name node index)) ∨
      ∃ first others, registered scope node name = first :: others ∧
        ((((∃ o ∈ others, o.2.key ≠ first.2.key) ∨ ∃ c ∈ candidates scope node name, c.2 = none) ∧
            ∃ report, lookup scope node name full = .error (.conflict report)) ∨
          ((∀ o ∈ others, o.2.key = first.2.key) ∧
            (∀ c ∈ candidates scope node name, c.2 ≠ none) ∧
            lookup scope node name full = .ok first.2)) := by
  rw [lookup_eq]
  cases hreg : registered scope node name with
  | nil => exact .inl ⟨rfl, _, rfl⟩
  | cons first others =>
    refine .inr ⟨first, others, rfl, ?_⟩
    dsimp only
    split
    · rename_i other hother
      have hdiffers := List.find?_some hother
      exact .inl ⟨.inl ⟨other, List.mem_of_find?_eq_some hother, by simpa using hdiffers⟩, _, rfl⟩
    · rename_i hsame
      split
      · rename_i missing hmissing
        have hnone := List.find?_some hmissing
        exact .inl ⟨.inr ⟨missing, List.mem_of_find?_eq_some hmissing, by simpa using hnone⟩, _, rfl⟩
      · rename_i hall
        refine .inr ⟨fun o ho => ?_, fun c hc => ?_, rfl⟩
        · simpa using List.find?_eq_none.mp hsame o ho
        · simpa using List.find?_eq_none.mp hall c hc

/-- A name stands for a provider if every index that has the node registers it. -/
theorem lookup_eq_ok_iff (hkeys : scope.KeysIdentify) {provider : Provider} :
    lookup scope node name full = .ok provider ↔
      candidates scope node name ≠ [] ∧
        ∀ x ∈ candidates scope node name, x.2 = some provider := by
  obtain ⟨hnil, index, hlookup⟩ | ⟨first, others, hcons, ⟨hdiffers, report, hlookup⟩ |
    ⟨hsame, hall, hlookup⟩⟩ := lookup_cases scope node name full <;> rw [hlookup]
  · refine iff_of_false nofun fun ⟨hne, hall⟩ => ?_
    obtain ⟨⟨index', p?⟩, rest, hmem⟩ := List.exists_cons_of_ne_nil hne
    have hx := hall (index', p?) (hmem ▸ List.mem_cons_self)
    cases hx
    have := (mem_registered_iff (x := (index', provider))).mpr (hmem ▸ List.mem_cons_self)
    simp [hnil] at this
  · refine iff_of_false nofun fun ⟨_, hall⟩ => ?_
    have hprovider {x : String × Provider} (hx : x ∈ registered scope node name) :
        x.2 = provider := Option.some.inj (hall _ (mem_registered_iff.mp hx))
    obtain ⟨o, ho, hkey⟩ | ⟨c, hc, hnone⟩ := hdiffers
    · refine hkey ?_
      rw [hprovider (hcons ▸ List.mem_cons_of_mem _ ho), hprovider (hcons ▸ List.mem_cons_self)]
    · cases (hall c hc).symm.trans hnone
  · have hfirst : first ∈ registered scope node name := hcons ▸ List.mem_cons_self
    have hproviders : ∀ x ∈ candidates scope node name, x.2 = some first.2 := by
      rintro ⟨index, p?⟩ hx
      obtain ⟨p, rfl⟩ := Option.ne_none_iff_exists'.mp (hall _ hx)
      have hreg : (index, p) ∈ registered scope node name := mem_registered_iff.mpr hx
      refine congrArg some (eq_of_mem_registered hkeys hreg hfirst ?_)
      rcases List.mem_cons.mp (hcons ▸ hreg) with rfl | ho
      · rfl
      · exact hsame _ ho
    have hmem := mem_registered_iff.mp hfirst
    constructor
    · intro h
      cases h
      exact ⟨List.ne_nil_of_mem hmem, hproviders⟩
    · rintro ⟨-, hall'⟩
      rw [Option.some.inj (hall' _ hmem)]

/-- Why a name stands for nothing: no index registers it, or the indexes are in conflict. -/
theorem lookup_error {e : QueryError} (h : lookup scope node name full = .error e) :
    ((∀ x ∈ candidates scope node name, x.2 = none) ∧
        ∃ index, e = .unknownNamedPredicate name node index) ∨
      ((∃ x ∈ candidates scope node name, x.2 ≠ none) ∧ ∃ report, e = .conflict report) := by
  obtain ⟨hnil, index, hlookup⟩ | ⟨first, others, hcons, ⟨-, report, hlookup⟩ | ⟨-, -, hlookup⟩⟩ :=
    lookup_cases scope node name full <;> rw [hlookup] at h <;> cases h
  · refine .inl ⟨?_, index, rfl⟩
    rintro ⟨index', p?⟩ hx
    cases p? with
    | none => rfl
    | some p =>
      have := (mem_registered_iff (x := (index', p))).mpr hx
      simp [hnil] at this
  · refine .inr ⟨⟨_, mem_registered_iff.mp (hcons ▸ List.mem_cons_self), ?_⟩, report, rfl⟩
    simp

/-- The provider that a name stands for is registered under the name. -/
theorem exists_registration_of_lookup {provider : Provider}
    (h : lookup scope node name full = .ok provider) :
    ∃ i ∈ scope.indexes, ∃ e ∈ i.named.registrations, e.name = name ∧ e.provider = provider := by
  obtain ⟨-, index, hlookup⟩ | ⟨first, others, hcons, ⟨-, report, hlookup⟩ | ⟨-, -, hlookup⟩⟩ :=
    lookup_cases scope node name full
  · cases hlookup.symm.trans h
  · cases hlookup.symm.trans h
  · cases hlookup.symm.trans h
    have hfirst : first ∈ registered scope node name := hcons ▸ List.mem_cons_self
    obtain ⟨i, hi, -, heq⟩ := mem_candidates_iff.mp (mem_registered_iff.mp hfirst)
    obtain ⟨e, hfind, he⟩ := Option.map_eq_some_iff.mp (Prod.mk.inj heq).2.symm
    have hmatches := List.find?_some hfind
    exact ⟨i, hi, e, List.mem_of_find?_eq_some hfind, by simp at hmatches; exact hmatches.2, he⟩

theorem eq_of_mem_candidates {x y : String × Option Provider}
    (hx : x ∈ candidates scope node name) (hy : y ∈ candidates scope node name)
    (h : x.1 = y.1) : x = y := by
  obtain ⟨i, hi, -, rfl⟩ := mem_candidates_iff.mp hx
  obtain ⟨j, hj, -, rfl⟩ := mem_candidates_iff.mp hy
  rw [SearchScope.eq_of_name_eq hi hj h]

/-- **A conflict over a name** is between an index that registers it and another one, which has some
    other provider for it or none. -/
theorem lookup_conflict {report : ConflictReport}
    (h : lookup scope node name full = .error (.conflict report)) :
    ∃ x ∈ candidates scope node name, ∃ y ∈ candidates scope node name, ∃ text,
      report = ⟨full, .named, .namedPredicate, "registered", text, x.1, y.1⟩ ∧ x.1 ≠ y.1 ∧
        text ≠ "registered" := by
  rw [lookup_eq] at h
  cases hreg : registered scope node name with
  | nil =>
    rw [hreg] at h
    cases h
  | cons first others =>
    rw [hreg] at h
    have hfirst := mem_registered_iff.mp (hreg ▸ List.mem_cons_self : first ∈ _)
    dsimp only at h
    split at h
    · rename_i other hother
      cases h
      have hmem := mem_registered_iff.mp
        (hreg ▸ List.mem_cons_of_mem first (List.mem_of_find?_eq_some hother))
      refine ⟨_, hfirst, _, hmem, _, rfl, fun hname => ?_, by decide⟩
      have hkey := List.find?_some hother
      have hsame := Option.some.inj (Prod.mk.inj (eq_of_mem_candidates hfirst hmem hname)).2
      simp [hsame] at hkey
    · split at h
      · rename_i missing hmissing
        cases h
        have hmem := List.mem_of_find?_eq_some hmissing
        refine ⟨_, hfirst, _, hmem, _, rfl, fun hname => ?_, by decide⟩
        have hnone := List.find?_some hmissing
        rw [← eq_of_mem_candidates hfirst hmem hname] at hnone
        cases hnone
      · cases h

theorem candidates_subset (hpart : s.indexes ⊆ s'.indexes) :
    candidates s node name ⊆ candidates s' node name := fun _ hx => by
  obtain ⟨i, hi, hx⟩ := mem_candidates_iff.mp hx
  exact mem_candidates_iff.mpr ⟨i, hpart hi, hx⟩

/-- **A name in a scope and in a part of it**, on a node that the part has. -/
theorem lookup_restricted (hpart : s.indexes ⊆ s'.indexes) (hkeys : s'.KeysIdentify)
    (hnode : s.Has node) :
    Restricted (s'.indexes ⊆ s.indexes) Eq (lookup s' node name full)
      (lookup s node name full) := by
  have hne : candidates s node name ≠ [] := by
    obtain ⟨i, hi, hhas⟩ := hnode
    exact List.ne_nil_of_mem (mem_candidates_iff.mpr ⟨i, hi, hhas, rfl⟩)
  cases h' : lookup s' node name full with
  | ok provider =>
    obtain ⟨-, hall⟩ := (lookup_eq_ok_iff hkeys).mp h'
    have h : lookup s node name full = .ok provider :=
      (lookup_eq_ok_iff (hkeys.of_part hpart)).mpr
        ⟨hne, fun x hx => hall x (candidates_subset hpart hx)⟩
    rw [h]
    exact .both rfl
  | error e' =>
    cases h : lookup s node name full with
    | ok provider =>
      refine .onlyPart fun hwhole => ?_
      obtain ⟨-, hall⟩ := (lookup_eq_ok_iff (hkeys.of_part hpart)).mp h
      have hok : lookup s' node name full = .ok provider := (lookup_eq_ok_iff hkeys).mpr
        ⟨fun hnil => hne (List.subset_nil.mp (hnil ▸ candidates_subset hpart)),
          fun x hx => hall x (candidates_subset hwhole hx)⟩
      cases h'.symm.trans hok
    | error e =>
      refine .neither fun hwhole => ?_
      obtain ⟨hnone', index', rfl⟩ | ⟨⟨x', hx', hsome'⟩, report', rfl⟩ := lookup_error h' <;>
        obtain ⟨hnone, index, rfl⟩ | ⟨⟨x, hx, hsome⟩, report, rfl⟩ := lookup_error h
      · rfl
      · exact absurd (hnone' x (candidates_subset hpart hx)) hsome
      · exact absurd (hnone x' (candidates_subset hwhole hx')) hsome'
      · rfl

/-! ## Leaves -/

variable {config : CompilerConfig} {frame : Frame}

theorem resolveFields_restricted (hpart : s.indexes ⊆ s'.indexes) (root : Option FieldPath)
    (usage : Usage) (fields : List FieldPath) (first : Option (FieldPath × NestingChain)) :
    Restricted (s'.indexes ⊆ s.indexes) Eq (resolveFields s' config root usage first fields)
      (resolveFields s config root usage first fields) := by
  induction fields generalizing first with
  | nil => exact .both rfl
  | cons field rest ih =>
    unfold resolveFields
    refine (SearchScope.resolve_restricted hpart root field usage).bind fun r' r hagree => ?_
    obtain ⟨hr', hr⟩ := hagree
    obtain ⟨hpath, hchain, -⟩ := hr'.eq_of_part hr hpart
    rw [hpath, hchain]
    refine .demand (fun _ => SearchScope.require_restricted hr' hr hpart usage) ?_
    cases first with
    | none => exact (ih _).bindSame fun _ => .same _
    | some x => exact .demand (fun _ => .same _) ((ih _).bindSame fun _ => .same _)

theorem leaf_restricted (hpart : s.indexes ⊆ s'.indexes) (used : Nat) (l : Leaf) :
    Restricted (s'.indexes ⊆ s.indexes) Eq (leaf s' config frame used l)
      (leaf s config frame used l) := by
  unfold leaf
  refine .demand (fun _ => .same _) ?_
  cases l.check with
  | error fault => exact .same _
  | ok u =>
    cases l.kind.usage? with
    | none => exact .same _
    | some usage =>
      exact (resolveFields_restricted hpart frame.root usage l.fields none).bindSame fun _ => .same _

/-! ## Named predicates -/

/-- Where a name leads is a node of the part, if the frame stands on one. -/
theorem target_restricted (hpart : s.indexes ⊆ s'.indexes) (hroot : s.Has frame.root)
    (full : FieldPath) :
    Restricted (s'.indexes ⊆ s.indexes) (fun t' t => t' = t ∧ s.Has t.1) (target s' frame full)
      (target s frame full) := by
  unfold target
  cases full.parent? with
  | none => exact .both ⟨rfl, hroot⟩
  | some place =>
    refine (SearchScope.resolve_restricted hpart frame.root place .named).bind
      fun r' r ⟨hr', hr⟩ => ?_
    obtain ⟨hpath, hchain, hkind⟩ := hr'.eq_of_part hr hpart
    rw [hpath, hchain, hkind]
    refine .demand (fun _ => SearchScope.require_restricted hr' hr hpart .named) ?_
    exact .both ⟨rfl, hr.has⟩

/-- What a name stands for is the same, and it is looked up on a node of the part. -/
theorem invoke_restricted (hpart : s.indexes ⊆ s'.indexes) (hkeys : s'.KeysIdentify)
    (hroot : s.Has frame.root) (name : String) (params : ParamBag) :
    Restricted (s'.indexes ⊆ s.indexes) (fun x' x => x' = x ∧ s.Has x.node)
      (invoke s' frame name params) (invoke s frame name params) := by
  unfold invoke
  cases FieldPath.parse name with
  | error cause => exact .neither fun _ => rfl
  | ok full =>
    refine (target_restricted hpart hroot full).bind fun t' t ⟨ht, hnode⟩ => ?_
    rw [ht]
    refine (lookup_restricted hpart hkeys hnode).bindSame fun provider => ?_
    refine (Restricted.same _).bindSame fun produced => ?_
    exact .both ⟨rfl, hnode⟩

/-! ## Trees -/

/-- A scope that is written out leads to the same object, which the part has. -/
theorem enter_restricted (hpart : s.indexes ⊆ s'.indexes) (path : FieldPath) :
    Restricted (s'.indexes ⊆ s.indexes)
      (fun r' r => r'.path = r.path ∧ r'.chain = r.chain ∧ s.Has (some r.path))
      (enter s' frame path) (enter s frame path) := by
  unfold enter
  refine (SearchScope.resolve_restricted hpart frame.root path .nested).bind
    fun r' r ⟨hr', hr⟩ => ?_
  obtain ⟨hpath, hchain, -⟩ := hr'.eq_of_part hr hpart
  refine (SearchScope.require_restricted hr' hr hpart .nested).bindSame fun _ => ?_
  exact .both ⟨hpath, hchain, hr.has⟩

/-- However deeply named predicates stand inside one another. The frame has to stand on a node of
    the part, and what a scope or a name leads to is one again. -/
theorem expanding_restricted (hpart : s.indexes ⊆ s'.indexes) (hkeys : s'.KeysIdentify)
    (config : CompilerConfig) (depth : Nat) (frame : Frame) (p : Predicate)
    (hroot : s.Has frame.root) (used : Nat) :
    Restricted (s'.indexes ⊆ s.indexes) Eq (expanding s' config depth frame used p)
      (expanding s config depth frame used p) := by
  induction depth, frame, p using expanding_induction generalizing used with
  | leaf depth frame l =>
    rw [expanding_leaf, expanding_leaf]
    exact leaf_restricted hpart used l
  | noClause depth frame operator =>
    rw [expanding_noClause, expanding_noClause]
    exact .same _
  | clause depth frame operator p ps ihp ihps =>
    rw [expanding_clause, expanding_clause]
    exact (ihp hroot used).bindSame fun r => (ihps hroot _).mapSame _
  | not depth frame inner ih =>
    rw [expanding_not, expanding_not]
    exact (ih hroot used).mapSame _
  | nested depth frame path inner ih =>
    rw [expanding_enter, expanding_enter]
    refine (enter_restricted hpart path).bind fun r' r ⟨hpath, hchain, hplace⟩ => ?_
    rw [hpath, hchain]
    exact (ih _ hplace used).mapSame _
  | boosted depth frame inner boost ih =>
    rw [expanding_boost, expanding_boost]
    cases checkBoost boost with
    | error fault => exact .same _
    | ok _ => exact (ih hroot used).mapSame _
  | constantScore depth frame inner ih =>
    rw [expanding_constantScore, expanding_constantScore]
    exact (ih hroot used).mapSame _
  | unexpanded frame name params =>
    rw [expanding_none, expanding_none]
    exact .same _
  | named depth frame name params ih =>
    rw [expanding_invoke, expanding_invoke]
    refine (invoke_restricted hpart hkeys hroot name params).bind fun x' x ⟨hx, hnode⟩ => ?_
    rw [hx]
    exact (ih (frame.expansion x.node x.residual) x.predicate hnode used).mapSame _

end Placement

/-- **Placing a query in a scope and in a part of it** gives the same, if it succeeds in both. -/
theorem place_restricted {s s' : SearchScope} (hpart : s.indexes ⊆ s'.indexes)
    (hkeys : s'.KeysIdentify) (config : CompilerConfig) (p : Predicate) :
    Restricted (s'.indexes ⊆ s.indexes) Eq (place s' config p) (place s config p) :=
  Placement.expanding_restricted hpart hkeys config config.maxExpansionDepth .top p s.has_none 0

end NestedSearch
