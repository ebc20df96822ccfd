import NestedSearch.Proofs.Placement.Limits
import NestedSearch.Proofs.Placement.Scoping
import NestedSearch.Proofs.Restriction.Placement

/-!
# What a name stands for

A name is looked up on a node, in the indexes that have the node (`SearchScope.holders`). It stands
for a provider only if all of them register it with this provider; where none registers it the name
is unknown, and everything else is a conflict (`lookup_outcomes`).

There always is an index that has the node, because placement only ever stands on nodes that some
index has (`Leads.has_root`). What is registered on other nodes, under other names or in other
indexes makes no difference (`lookup_congr`).
-/

namespace NestedSearch

open Relation (ReflTransGen)

/-- The indexes that have the node: an object field, or the index as a whole, which all have. -/
def SearchScope.holders (s : SearchScope) : Option FieldPath → List TargetIndex
  | none => s.indexes
  | some path => s.indexes.filter fun i => (i.schema.node? path).isSome

theorem SearchScope.mem_holders_iff {s : SearchScope} {node : Option FieldPath} {i : TargetIndex} :
    i ∈ s.holders node ↔ i ∈ s.indexes ∧ i.Has node := by
  cases node with
  | none => simp [holders]
  | some path => simp [holders]

/-- What an index registers under the name for the node. -/
def TargetIndex.registrationsOf (i : TargetIndex) (node : Option FieldPath) (name : String) :
    List Registration :=
  i.named.registrations.filter fun e => e.node = node && e.name = name

theorem TargetIndex.get?_eq (i : TargetIndex) (node : Option FieldPath) (name : String) :
    i.named.get? node name = (i.registrationsOf node name).head?.map Registration.provider := by
  rw [registrationsOf, List.head?_filter]
  rfl

namespace Placement

variable {scope : SearchScope} {node : Option FieldPath} {name : String} {full : FieldPath}

theorem candidates_eq (scope : SearchScope) (node : Option FieldPath) (name : String) :
    candidates scope node name =
      (scope.holders node).map fun i => (i.name, i.named.get? node name) := by
  cases node <;> rfl

/-! ## Where a name is looked up -/

theorem target_has {frame : Frame} {residual : List NestingScope} (hroot : scope.Has frame.root)
    (h : target scope frame full = .ok (node, residual)) : scope.Has node := by
  rcases target_ok h with ⟨-, rfl, -⟩ | ⟨place, r, -, hr, rfl, -⟩
  · exact hroot
  · rw [SearchScope.resolve_joinUnder] at hr
    exact (SearchScope.agreement hr).has

/-- One step of placement leads from a node that some index has to such a node. -/
theorem Leads.has_root {s s' : Site} (h : Leads scope s s') (hroot : scope.Has s.frame.root) :
    scope.Has s'.frame.root := by
  cases h with
  | clause | not | boosted | constantScore => exact hroot
  | nested houter hrequire =>
    rw [SearchScope.resolve_joinUnder] at houter
    exact (SearchScope.agreement houter).has
  | named hfull htarget hprovider hproduced => exact target_has hroot htarget

theorem has_root_of_leads {s s' : Site} (h : ReflTransGen (Leads scope) s s')
    (hroot : scope.Has s.frame.root) : scope.Has s'.frame.root := by
  induction h with
  | refl => exact hroot
  | tail _ hstep ih => exact hstep.has_root ih

/-! ## What a lookup comes to -/

/-- **Only the registrations for the node under the name, in the indexes that have the node, make a
    difference.** -/
theorem lookup_congr {s t : SearchScope} (h : (s.holders node).map
      (fun i => (i.name, i.registrationsOf node name)) =
        (t.holders node).map fun i => (i.name, i.registrationsOf node name)) :
    lookup s node name full = lookup t node name full := by
  have hcandidates : ∀ u : SearchScope, candidates u node name =
      ((u.holders node).map fun i => (i.name, i.registrationsOf node name)).map
        fun x => (x.1, x.2.head?.map Registration.provider) := by
    intro u
    rw [candidates_eq, List.map_map]
    exact List.map_congr_left fun i _ => by rw [TargetIndex.get?_eq]; rfl
  unfold lookup
  rw [hcandidates, hcandidates, h]

/-- The first index that registers the name comes first among those that do. -/
theorem find?_of_registered {index : String} {provider : Provider}
    {others : List (String × Provider)}
    (h : registered scope node name = (index, provider) :: others) :
    ∃ left, (scope.holders node).find? (fun i => (i.named.get? node name).isSome) = some left ∧
      left.name = index ∧ left.named.get? node name = some provider := by
  unfold registered at h
  rw [candidates_eq, List.filterMap_map] at h
  obtain ⟨before, left, after, hsplit, hnone, hleft, -⟩ := List.filterMap_eq_cons_iff.mp h
  obtain ⟨p, hp, heq⟩ := Option.map_eq_some_iff.mp hleft
  cases heq
  refine ⟨left, List.find?_eq_some_iff_append.mpr ⟨?_, before, after, hsplit, ?_⟩, rfl, hp⟩
  · dsimp only at hp
    rw [hp]
    rfl
  · intro i hi
    simpa using hnone i hi

theorem registered_eq_nil_iff :
    registered scope node name = [] ↔ ∀ i ∈ scope.holders node, i.named.get? node name = none := by
  unfold registered
  rw [candidates_eq, List.filterMap_map, List.filterMap_eq_nil_iff]
  simp

section Outcomes

variable (hkeys : scope.KeysIdentify) (hhas : scope.Has node)

include hhas in
theorem exists_holder : ∃ first rest, scope.holders node = first :: rest := by
  obtain ⟨i, hi, hnode⟩ := hhas
  have hmem := SearchScope.mem_holders_iff.mpr ⟨hi, hnode⟩
  exact List.exists_cons_of_ne_nil (List.ne_nil_of_mem hmem)

include hkeys hhas in
theorem lookup_eq_ok_iff_holders {f : Provider} :
    lookup scope node name full = .ok f ↔
      ∀ i ∈ scope.holders node, i.named.get? node name = some f := by
  obtain ⟨first, rest, hholders⟩ := exists_holder hhas
  rw [lookup_eq_ok_iff hkeys, candidates_eq]
  simp [hholders]

theorem lookup_eq_unknown_iff {first : TargetIndex} {rest : List TargetIndex}
    (hholders : scope.holders node = first :: rest) :
    lookup scope node name full = .error (.unknownNamedPredicate name node first.name) ↔
      ∀ i ∈ scope.holders node, i.named.get? node name = none := by
  constructor
  · intro h
    obtain ⟨hnone, -⟩ | ⟨-, report, hconflict⟩ := lookup_error h
    · intro i hi
      rw [candidates_eq] at hnone
      exact hnone _ (List.mem_map_of_mem hi)
    · cases hconflict
  · intro hnone
    rw [lookup_eq, registered_eq_nil_iff.mpr hnone, candidates_eq, hholders]
    rfl

theorem exists_holder_of_candidate {x : String × Option Provider}
    (hx : x ∈ candidates scope node name) :
    ∃ i ∈ scope.holders node, x = (i.name, i.named.get? node name) := by
  rw [candidates_eq] at hx
  obtain ⟨i, hi, rfl⟩ := List.mem_map.mp hx
  exact ⟨i, hi, rfl⟩

/-- The text with which a conflict tells what the index has for the name. -/
def describeRegistration (i : TargetIndex) (node : Option FieldPath) (name : String) : String :=
  if (i.named.get? node name).isSome then "registered (different factory)" else "not registered"

include hkeys hhas in
theorem exists_namedConflict (hsome : ¬∀ i ∈ scope.holders node, i.named.get? node name = none)
    (hdiffer : ¬∃ f, ∀ i ∈ scope.holders node, i.named.get? node name = some f) :
    ∃ left right f,
      (scope.holders node).find? (fun i => (i.named.get? node name).isSome) = some left ∧
      left.named.get? node name = some f ∧ right ∈ scope.holders node ∧
      right.named.get? node name ≠ some f ∧
      lookup scope node name full = .error
        (namedConflict full left.name right.name (describeRegistration right node name)) := by
  cases hreg : registered scope node name with
  | nil => exact absurd (registered_eq_nil_iff.mp hreg) hsome
  | cons first others =>
    obtain ⟨index, f⟩ := first
    obtain ⟨left, hleft, rfl, hf⟩ := find?_of_registered hreg
    have hlookup := lookup_eq scope node name full
    rw [hreg] at hlookup
    dsimp only at hlookup
    split at hlookup
    · -- Some index registers a provider that its key tells apart from the first one.
      rename_i other hother
      have hmem := mem_registered_iff.mp
        (hreg ▸ List.mem_cons_of_mem _ (List.mem_of_find?_eq_some hother))
      obtain ⟨right, hright, heq⟩ := exists_holder_of_candidate hmem
      obtain ⟨hname, hprovider⟩ := Prod.mk.inj heq
      have hkey : other.2.key ≠ f.key := by simpa using List.find?_some hother
      refine ⟨left, right, f, hleft, hf, hright, ?_, ?_⟩
      · rw [← hprovider]
        intro hsame
        exact hkey (congrArg Provider.key (Option.some.inj hsame))
      · rw [hlookup, describeRegistration, ← hprovider, ← hname]
        rfl
    · split at hlookup
      · -- All that is registered is one provider, and some index registers none.
        rename_i missing hmissing
        obtain ⟨right, hright, rfl⟩ :=
          exists_holder_of_candidate (List.mem_of_find?_eq_some hmissing)
        have hnone : right.named.get? node name = none := by simpa using List.find?_some hmissing
        refine ⟨left, right, f, hleft, hf, hright, ?_, ?_⟩
        · rw [hnone]
          exact nofun
        · rw [hlookup, describeRegistration, hnone]
          rfl
      · exact absurd ⟨f, (lookup_eq_ok_iff_holders hkeys hhas).mp hlookup⟩ hdiffer

end Outcomes

end Placement

open Placement

/-- **A name stands for a provider only if all indexes agree.** Let a query invoke a name somewhere
    in its unfolding, where its path leads to this node; the invocation goes by a lookup. Then the
    name stands for a provider if and only if every index with the node registers the provider for
    the node under the name. It is unknown, and the first of these indexes is blamed, if and only if
    none of them registers it. In any other case there is a conflict between the first one that
    registers it and one that registers another provider or none. All that makes a difference to
    this is what these indexes register for the node under the name. -/
theorem lookup_outcomes {scope : SearchScope} (hkeys : scope.KeysIdentify) {p : Predicate}
    {frame : Frame} {text : String} {params : ParamBag} {depth : Nat} {full : FieldPath}
    {node : Option FieldPath} {residual : List NestingScope}
    (hsite : ReflTransGen (Leads scope) ⟨.top, p, 0⟩ ⟨frame, .named text params, depth⟩)
    (hfull : FieldPath.parse text = .ok full)
    (htarget : target scope frame full = .ok (node, residual)) :
    invoke scope frame text params = (do
      let provider ← lookup scope node full.last.name full
      (provider.provide ⟨text, params⟩).map fun produced => ⟨node, residual, produced⟩) ∧
    ∃ first rest, scope.holders node = first :: rest ∧
      (∀ f, lookup scope node full.last.name full = .ok f ↔
        ∀ i ∈ scope.holders node, i.named.get? node full.last.name = some f) ∧
      (lookup scope node full.last.name full =
          .error (.unknownNamedPredicate full.last.name node first.name) ↔
        ∀ i ∈ scope.holders node, i.named.get? node full.last.name = none) ∧
      ((¬∃ f, ∀ i ∈ scope.holders node, i.named.get? node full.last.name = some f) →
        (¬∀ i ∈ scope.holders node, i.named.get? node full.last.name = none) →
        ∃ left right f,
          (scope.holders node).find? (fun i => (i.named.get? node full.last.name).isSome) =
            some left ∧
          left.named.get? node full.last.name = some f ∧ right ∈ scope.holders node ∧
          right.named.get? node full.last.name ≠ some f ∧
          lookup scope node full.last.name full = .error (.conflict
            ⟨full, .named, .namedPredicate, "registered",
              describeRegistration right node full.last.name, left.name, right.name⟩)) ∧
      ∀ other : SearchScope, (other.holders node).map
            (fun i => (i.name, i.registrationsOf node full.last.name)) =
          (scope.holders node).map (fun i => (i.name, i.registrationsOf node full.last.name)) →
        lookup other node full.last.name full = lookup scope node full.last.name full := by
  have hroot := has_root_of_leads hsite scope.has_none
  have hhas := target_has hroot htarget
  obtain ⟨first, rest, hholders⟩ := exists_holder hhas
  refine ⟨invoke_of_target hfull htarget params, first, rest, hholders,
    fun f => lookup_eq_ok_iff_holders hkeys hhas, lookup_eq_unknown_iff hholders, ?_,
    fun other => lookup_congr⟩
  intro hdiffer hsome
  exact exists_namedConflict hkeys hhas hsome hdiffer

namespace Sample

/-- A shop that provides no predicate. -/
def stall : Schema :=
  { shop with index := "stall", valid := by decide +kernel }

def labelling : TargetIndex :=
  ⟨shop, ⟨[⟨some ⟨orders, [lines, note]⟩, "labelled", labelled⟩]⟩⟩

/-- An index without orders, and two with orders, of which one has a predicate for their notes. -/
def uneven : SearchScope where
  indexes := [.ofSchema blog, labelling, .ofSchema stall]
  nonempty := by simp
  distinct := by decide +kernel

theorem uneven_keysIdentify : uneven.KeysIdentify := by
  have honly : ∀ i ∈ uneven.indexes, ∀ a ∈ i.named.registrations, a.provider = labelled := by
    simp [uneven, labelling, TargetIndex.ofSchema, Registry.empty]
  intro i hi j hj a ha b hb _
  rw [honly i hi a ha, honly j hj b hb]

def notes : FieldPath := ⟨orders, [lines, note]⟩

def labelledNotes : FieldPath := ⟨orders, [lines, note, .literal "labelled"]⟩

end Sample

/-- `lookup_outcomes` for a name that two indexes could register and one does. -/
theorem lookup_outcomes_sample :
    lookup Sample.uneven (some Sample.notes) "labelled" Sample.labelledNotes =
      .error (.conflict ⟨Sample.labelledNotes, .named, .namedPredicate, "registered",
        "not registered", "shop", "stall"⟩) := by
  have hsite : ReflTransGen (Leads Sample.uneven)
      ⟨.top, .named "orders.lines.note.labelled" .empty, 0⟩
      ⟨.top, .named "orders.lines.note.labelled" .empty, 0⟩ := .refl
  have hfull : FieldPath.parse "orders.lines.note.labelled" = .ok Sample.labelledNotes := rfl
  obtain ⟨residual, htarget⟩ : ∃ residual, target Sample.uneven .top Sample.labelledNotes =
      .ok (some Sample.notes, residual) := ⟨_, rfl⟩
  have hholders : Sample.uneven.holders (some Sample.notes) =
      [Sample.labelling, .ofSchema Sample.stall] := rfl
  have hlabelling : Sample.labelling.named.get? (some Sample.notes) "labelled" =
      some Sample.labelled := rfl
  have hstall : (TargetIndex.ofSchema Sample.stall).named.get? (some Sample.notes) "labelled" =
      none := rfl
  obtain ⟨-, first, rest, -, -, -, hconflict, -⟩ :=
    lookup_outcomes Sample.uneven_keysIdentify hsite hfull htarget
  obtain ⟨left, right, f, hleft, hf, hright, hne, hlookup⟩ := hconflict
    (fun ⟨f, hall⟩ => by cases hstall.symm.trans (hall _ (by simp [hholders])))
    (fun hall => by cases hlabelling.symm.trans (hall _ (by simp [hholders])))
  cases hleft
  cases hlabelling.symm.trans hf
  rw [hholders] at hright
  rcases List.mem_pair.mp hright with rfl | rfl
  · exact absurd hlabelling hne
  · exact hlookup

end NestedSearch
