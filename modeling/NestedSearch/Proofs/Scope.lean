import Mathlib.Data.List.Nodup
import NestedSearch.Proofs.Outcome
import NestedSearch.Proofs.Resolution
import NestedSearch.Scope

/-!
# What a path leads to in several indexes

`SearchScope.resolve` asks every index, and the answers have to agree. What a query may rely on
afterwards is one structure, `Agreement`: some index has the field, and every index that has it
gives the same kind, the same chain and a node that is nested in all of them or in none. That is
all later proofs use of the search for a first error, for a blocked index or for a difference.
-/

namespace NestedSearch

/-- An order in which no two elements tie leaves only one way to sort a list. -/
theorem mergeSort_eq_of_perm {α : Type} {le : α → α → Bool}
    (htrans : ∀ a b c, le a b = true → le b c = true → le a c = true)
    (htotal : ∀ a b, (le a b || le b a) = true)
    (hantisymm : ∀ a b, le a b = true → le b a = true → a = b) {as bs : List α}
    (h : as.Perm bs) : as.mergeSort le = bs.mergeSort le := by
  have hsorted : (as.mergeSort le).Perm (bs.mergeSort le) :=
    (List.mergeSort_perm as le).trans (h.trans (List.mergeSort_perm bs le).symm)
  exact hsorted.eq_of_pairwise (fun a b _ _ => hantisymm a b)
    (List.pairwise_mergeSort htrans htotal as) (List.pairwise_mergeSort htrans htotal bs)

namespace SearchScope

/-! ## Names -/

theorem eq_of_name_eq {s : SearchScope} {i j : TargetIndex} (hi : i ∈ s.indexes)
    (hj : j ∈ s.indexes) (h : i.name = j.name) : i = j :=
  List.inj_on_of_nodup_map s.distinct hi hj h

theorem mem_indexNames_iff {s : SearchScope} {name : String} :
    name ∈ s.indexNames ↔ ∃ i ∈ s.indexes, i.name = name := by
  unfold indexNames
  rw [List.mem_mergeSort, List.mem_map]

/-- Scopes whose indexes have the same names list these names alike. -/
theorem indexNames_eq_of_mem_iff {s t : SearchScope}
    (h : ∀ name, name ∈ s.indexNames ↔ name ∈ t.indexNames) : s.indexNames = t.indexNames := by
  have hperm : (s.indexes.map TargetIndex.name).Perm (t.indexes.map TargetIndex.name) := by
    refine (List.perm_ext_iff_of_nodup s.distinct t.distinct).mpr fun name => ?_
    have hname := h name
    unfold indexNames at hname
    rwa [List.mem_mergeSort, List.mem_mergeSort] at hname
  refine mergeSort_eq_of_perm ?_ ?_ ?_ hperm
  · intro a b c hab hbc
    exact decide_eq_true (String.le_trans (of_decide_eq_true hab) (of_decide_eq_true hbc))
  · intro a b
    rcases String.le_total a b with h | h <;> simp [h]
  · intro a b hab hba
    exact String.le_antisymm (of_decide_eq_true hab) (of_decide_eq_true hba)

/-! ## Differences -/

/-- Two resolutions that a query can bridge agree in kind, in storage and in their chains. -/
theorem difference?_eq_none_iff {l r : Resolution} :
    difference? l r = none ↔
      l.kind = r.kind ∧ l.node.isNested = r.node.isNested ∧ l.chain = r.chain := by
  obtain ⟨_, _, lc, ln⟩ := l
  obtain ⟨_, _, rc, rn⟩ := r
  unfold difference? difference?.chains Resolution.kind
  cases ln with
  | value lf =>
    cases rn with
    | value rf => simp [Node.kind, Node.isNested]
    | object rs rm rcs => simp [Node.kind]
  | object ls lm lcs =>
    cases rn with
    | value rf => simp [Node.kind]
    | object rs rm rcs => cases ls <;> cases rs <;> simp [Node.kind, Node.isNested]

/-! ## Resolution in a scope -/

/-- The resolutions of a path in the indexes that have the field. -/
def resolutions (s : SearchScope) (p : FieldPath) : List Resolution :=
  s.indexes.filterMap fun i => (i.schema.resolve p).toOption

theorem mem_resolutions_iff {s : SearchScope} {p : FieldPath} {r : Resolution} :
    r ∈ s.resolutions p ↔ ∃ i ∈ s.indexes, ∃ node, i.schema.node? p = some node ∧
      r = ⟨i.schema.index, p, i.schema.chainTo p, node⟩ := by
  unfold resolutions
  rw [List.mem_filterMap]
  refine exists_congr fun i => and_congr_right fun _ => ?_
  rw [← Definition.resolve_eq_ok_iff]
  cases i.schema.resolve p <;> simp [Except.toOption]

/-- Every index has one resolution at most. -/
theorem resolutions_pairwise (s : SearchScope) (p : FieldPath) :
    (s.resolutions p).Pairwise fun a b => a.index ≠ b.index := by
  have hindex : ∀ (i : TargetIndex) (r : Resolution),
      (i.schema.resolve p).toOption = some r → r.index = i.name := by
    intro i r hr
    obtain ⟨node, -, rfl⟩ := Definition.resolve_eq_ok_iff.mp (toOption_eq_some_iff.mp hr)
    rfl
  unfold resolutions
  rw [List.pairwise_filterMap]
  refine (List.pairwise_map.mp s.distinct).imp fun {i j} hne a ha b hb => ?_
  rw [hindex i a ha, hindex j b hb]
  exact hne

/-- Whatever is found after the first resolution is of another index. -/
theorem pair_of_resolutions {s : SearchScope} {p : FieldPath} {first other : Resolution}
    {others : List Resolution} (h : s.resolutions p = first :: others) (hother : other ∈ others) :
    first ∈ s.resolutions p ∧ other ∈ s.resolutions p ∧ first.index ≠ other.index := by
  have hdistinct := s.resolutions_pairwise p
  rw [h, List.pairwise_cons] at hdistinct
  rw [h]
  exact ⟨List.mem_cons_self, List.mem_cons_of_mem first hother, hdistinct.1 other hother⟩

/-- Resolving relative to a root is resolving the joined path. -/
theorem resolve_joinUnder (s : SearchScope) (root : Option FieldPath) (p : FieldPath)
    (usage : Usage) :
    s.resolve root p usage = s.resolve none (.joinUnder root p) usage := by
  unfold resolve
  simp only [Definition.resolveFrom_eq_resolve, FieldPath.joinUnder_none]

/-- The errors with which indexes answer, and the names of these indexes. -/
private def failures (s : SearchScope) (p : FieldPath) : List (String × SchemaError) :=
  (s.indexes.map fun i => (i.name, i.schema.resolve p)).filterMap fun a =>
    match a.2 with
    | .error e => some (a.1, e)
    | .ok _ => none

private theorem mem_failures_iff {s : SearchScope} {p : FieldPath} {name : String}
    {e : SchemaError} :
    (name, e) ∈ failures s p ↔
      ∃ i ∈ s.indexes, i.schema.resolve p = .error e ∧ i.name = name := by
  unfold failures
  rw [List.filterMap_map, List.mem_filterMap]
  refine exists_congr fun i => and_congr_right fun _ => ?_
  cases hr : i.schema.resolve p <;> simp [Function.comp, hr, and_comm]

private theorem find?_failures_eq_none_iff {s : SearchScope} {p : FieldPath} :
    ((failures s p).find? fun e => !e.2.isUnknownField) = none ↔
      ∀ i ∈ s.indexes, ∀ e, i.schema.resolve p = .error e → e.isUnknownField = true := by
  rw [List.find?_eq_none]
  constructor
  · intro h i hi e he
    simpa using h (i.name, e) (mem_failures_iff.mpr ⟨i, hi, he, rfl⟩)
  · rintro h ⟨name, e⟩ hmem
    obtain ⟨i, hi, he, -⟩ := mem_failures_iff.mp hmem
    simp [h i hi e he]

/-- Resolution in a scope succeeds exactly if some index has the field, every other one merely
    lacks it, and none of those that have it differs from the first. -/
theorem resolve_eq_ok_iff {s : SearchScope} {p : FieldPath} {usage : Usage}
    {r : ScopedResolution} :
    s.resolve none p usage = .ok r ↔
      ∃ first others, s.resolutions p = first :: others ∧
        (∀ i ∈ s.indexes, ∀ e, i.schema.resolve p = .error e → e.isUnknownField = true) ∧
        (∀ other ∈ others, difference? first other = none) ∧
        r = ⟨first.path, first.chain, first.kind, first :: others⟩ := by
  have hfound : ((s.indexes.map fun i => (i.name, i.schema.resolve p)).filterMap
      fun a => a.2.toOption) = s.resolutions p := by
    rw [List.filterMap_map]
    rfl
  rw [← find?_failures_eq_none_iff]
  unfold resolve
  simp only [Definition.resolveFrom_eq_resolve, FieldPath.joinUnder_none, hfound]
  cases hres : s.resolutions p with
  | nil =>
    -- Nothing was found: whatever error is chosen, it is an error.
    simp only
    split <;> simp
  | cons first others =>
    simp only
    split
    · rename_i index e hb
      have hblocked : (failures s p).find? (fun e => !e.2.isUnknownField) = some (index, e) := hb
      simp [hblocked]
    · rename_i hb
      have hblocked : (failures s p).find? (fun e => !e.2.isUnknownField) = none := hb
      split
      · rename_i hd
        obtain ⟨other, hother, hsome⟩ := List.exists_of_findSome?_eq_some hd
        constructor
        · intro h
          cases h
        · rintro ⟨first', others', hcons, -, hall, -⟩
          obtain ⟨rfl, rfl⟩ := List.cons.inj hcons
          rw [hall other hother] at hsome
          cases hsome
      · rename_i hd
        have hall : ∀ other ∈ others, difference? first other = none := by
          simpa using List.findSome?_eq_none_iff.mp hd
        constructor
        · intro h
          cases h
          exact ⟨first, others, rfl, hblocked, hall, rfl⟩
        · rintro ⟨first', others', hcons, -, -, rfl⟩
          obtain ⟨rfl, rfl⟩ := List.cons.inj hcons
          rfl

/-- In a single index a path resolves wherever there is a node. -/
theorem resolve_single {i : TargetIndex} {p : FieldPath} {node : Node} {usage : Usage}
    (h : i.schema.node? p = some node) :
    (single i).resolve none p usage = .ok ⟨p, i.schema.chainTo p, node.kind,
      [⟨i.schema.index, p, i.schema.chainTo p, node⟩]⟩ := by
  have hresolve := Definition.resolve_eq_ok_iff.mpr ⟨node, h, rfl⟩
  refine resolve_eq_ok_iff.mpr ⟨⟨i.schema.index, p, i.schema.chainTo p, node⟩, [], ?_, ?_, ?_, rfl⟩
  · simp [resolutions, single, hresolve, Except.toOption]
  · intro j hj e he
    cases List.mem_singleton.mp hj
    cases hresolve.symm.trans he
  · simp

/-- What indexes that have a field are in conflict over: one has a value on the way to it, or two
    that have the field differ in what a query cannot bridge. -/
inductive Clash (s : SearchScope) (p : FieldPath) (usage : Usage) : ConflictReport → Prop
  | blocked {first : Resolution} {j : TargetIndex} {e : SchemaError}
      (hfirst : first ∈ s.resolutions p) (hj : j ∈ s.indexes)
      (he : j.schema.resolve p = .error e) :
      Clash s p usage ⟨p, usage, .nodeKind, NodeKind.object.describe, NodeKind.value.describe,
        first.index, j.name⟩
  | differing {first other : Resolution} {others : List Resolution} {attr : Attribute}
      {left right : String} (hfound : s.resolutions p = first :: others) (hother : other ∈ others)
      (hdifference : difference? first other = some (attr, left, right)) :
      Clash s p usage ⟨p, usage, attr, left, right, first.index, other.index⟩

/-- Why a path does not resolve: where no index has the field, for what one of them says, which is
    that the field is unknown only if all of them say so; else for a conflict. -/
theorem resolve_error {s : SearchScope} {p : FieldPath} {usage : Usage} {e : QueryError}
    (h : s.resolve none p usage = .error e) :
    (s.resolutions p = [] ∧ ∃ cause, e = .schema cause ∧
        (∃ i ∈ s.indexes, i.schema.resolve p = .error cause) ∧
        (cause.isUnknownField = true → ∀ i ∈ s.indexes, ∀ e, i.schema.resolve p = .error e →
          e.isUnknownField = true)) ∨
      (s.resolutions p ≠ [] ∧ ∃ report, e = .conflict report ∧ s.Clash p usage report) := by
  have hfound : ((s.indexes.map fun i => (i.name, i.schema.resolve p)).filterMap
      fun a => a.2.toOption) = s.resolutions p := by
    rw [List.filterMap_map]
    rfl
  unfold resolve at h
  simp only [Definition.resolveFrom_eq_resolve, FieldPath.joinUnder_none, hfound] at h
  cases hres : s.resolutions p with
  | nil =>
    refine .inl ⟨rfl, ?_⟩
    simp only [hres] at h
    split at h
    · rename_i index cause hb
      cases h
      have hblocked : (failures s p).find? (fun e => !e.2.isUnknownField) = some (index, cause) := hb
      obtain ⟨i, hi, hcause, -⟩ := mem_failures_iff.mp (List.mem_of_find?_eq_some hblocked)
      have hknown := List.find?_some hblocked
      refine ⟨cause, rfl, ⟨i, hi, hcause⟩, fun hunknown => ?_⟩
      simp [hunknown] at hknown
    · rename_i index cause rest hb hf
      cases h
      have hblocked : (failures s p).find? (fun e => !e.2.isUnknownField) = none := hb
      have hfirst : failures s p = (index, cause) :: rest := hf
      obtain ⟨i, hi, hcause, -⟩ := mem_failures_iff.mp (hfirst ▸ List.mem_cons_self)
      exact ⟨cause, rfl, ⟨i, hi, hcause⟩, fun _ => find?_failures_eq_none_iff.mp hblocked⟩
    · rename_i hf
      -- Some index answered, and not with a resolution.
      have hnone : failures s p = [] := hf
      obtain ⟨i, rest, hi⟩ := List.exists_cons_of_ne_nil s.nonempty
      have hmem : i ∈ s.indexes := hi ▸ List.mem_cons_self
      cases hr : i.schema.resolve p with
      | ok r =>
        obtain ⟨node, hnode, rfl⟩ := Definition.resolve_eq_ok_iff.mp hr
        have := mem_resolutions_iff.mpr ⟨i, hmem, node, hnode, rfl⟩
        simp [hres] at this
      | error e =>
        have := mem_failures_iff.mpr ⟨i, hmem, hr, rfl⟩
        simp [hnone] at this
  | cons first others =>
    refine .inr ⟨by simp, ?_⟩
    simp only [hres] at h
    split at h
    · rename_i index e' hb
      cases h
      have hblocked : (failures s p).find? (fun e => !e.2.isUnknownField) = some (index, e') := hb
      obtain ⟨j, hj, he, rfl⟩ := mem_failures_iff.mp (List.mem_of_find?_eq_some hblocked)
      exact ⟨_, rfl, .blocked (hres ▸ List.mem_cons_self) hj he⟩
    · split at h
      · rename_i hd
        cases h
        obtain ⟨other, hother, hsome⟩ := List.exists_of_findSome?_eq_some hd
        obtain ⟨d, hdifference, hpair⟩ := Option.map_eq_some_iff.mp hsome
        cases hpair
        exact ⟨_, rfl, .differing hres hother hdifference⟩
      · cases h

/-! ## Agreement -/

/-- What a query relies on once a path resolves in a scope. -/
structure Agreement (s : SearchScope) (p : FieldPath) (r : ScopedResolution) : Prop where
  path_eq : r.path = p
  found_eq : r.found = s.resolutions p
  /-- Some index has the field. -/
  some_index : ∃ i ∈ s.indexes, ∃ node, i.schema.node? p = some node
  /-- No index has a value on the way. -/
  unblocked : ∀ i ∈ s.indexes, ∀ e, i.schema.resolve p = .error e → e.isUnknownField = true
  kind_eq : ∀ i ∈ s.indexes, ∀ node, i.schema.node? p = some node → node.kind = r.kind
  chain_eq : ∀ i ∈ s.indexes, ∀ node, i.schema.node? p = some node →
    i.schema.chainTo p = r.chain

/-- **All indexes that have the field agree on what a query depends on.** -/
theorem agreement {s : SearchScope} {p : FieldPath} {usage : Usage} {r : ScopedResolution}
    (h : s.resolve none p usage = .ok r) : s.Agreement p r := by
  obtain ⟨first, others, hres, hunblocked, hsame, rfl⟩ := resolve_eq_ok_iff.mp h
  have hmem : first ∈ s.resolutions p := hres ▸ List.mem_cons_self
  obtain ⟨j, hj, first_node, hfirst, rfl⟩ := mem_resolutions_iff.mp hmem
  -- The first resolution agrees with itself as well as with the others.
  have hagree : ∀ i ∈ s.indexes, ∀ node, i.schema.node? p = some node →
      node.kind = first_node.kind ∧ i.schema.chainTo p = j.schema.chainTo p := by
    intro i hi node hnode
    have hin := mem_resolutions_iff.mpr ⟨i, hi, node, hnode, rfl⟩
    rw [hres] at hin
    rcases List.mem_cons.mp hin with heq | hin
    · injection heq with _ _ hchain hn
      exact ⟨congrArg Node.kind hn, hchain⟩
    · obtain ⟨hkind, -, hchain⟩ := difference?_eq_none_iff.mp (hsame _ hin)
      exact ⟨hkind.symm, hchain.symm⟩
  exact {
    path_eq := rfl
    found_eq := hres.symm
    some_index := ⟨j, hj, first_node, hfirst⟩
    unblocked := hunblocked
    kind_eq := fun i hi node hnode => (hagree i hi node hnode).1
    chain_eq := fun i hi node hnode => (hagree i hi node hnode).2 }

/-- The chain is the one of any index that has the field. -/
theorem Agreement.exists_chain {s : SearchScope} {p : FieldPath} {r : ScopedResolution}
    (h : s.Agreement p r) :
    ∃ i ∈ s.indexes, ∃ node, i.schema.node? p = some node ∧ i.schema.chainTo p = r.chain := by
  obtain ⟨i, hi, node, hnode⟩ := h.some_index
  exact ⟨i, hi, node, hnode, h.chain_eq i hi node hnode⟩

/-- A usage that a resolution requires is supported wherever the field exists. -/
theorem Agreement.supports {s : SearchScope} {p : FieldPath} {r : ScopedResolution}
    {usage : Usage} (h : s.Agreement p r) (hreq : r.require usage = .ok ()) {i : TargetIndex}
    (hi : i ∈ s.indexes) {node : Node} (hnode : i.schema.node? p = some node) :
    node.supports usage = true := by
  unfold ScopedResolution.require at hreq
  split at hreq
  · cases hreq
  · rename_i hnone
    have hmem := mem_resolutions_iff.mpr ⟨i, hi, node, hnode, rfl⟩
    rw [← h.found_eq] at hmem
    simpa using List.find?_eq_none.mp hnone _ hmem

end SearchScope
end NestedSearch
