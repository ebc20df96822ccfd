import Mathlib.Data.List.Forall2
import NestedSearch.Proofs.Outcome
import NestedSearch.Proofs.Presence

/-!
# Schemas with more fields

Fields are added to the schemas of a scope, anywhere in them, under names that are new
(`Fields.Enlarged`). A path that avoids these names leads where it led before: to the same error,
or to the same field, up to the fields below it (`Definition.resolve_enlarged`). Nothing that asks
for a field looks below it, so a field may be replaced by its outline, and scopes of which the
outlines are the same answer alike (`SearchScope.resolve_of_outlines`,
`checkCompatibility_of_outlines`).
-/

namespace NestedSearch

/-! ## Fields of new names -/

mutual

/-- The node with fields of new names added somewhere below it. -/
inductive Node.Enlarged (new : String → Prop) : Node → Node → Prop
  | value (f : ValueField) : Node.Enlarged new (.value f) (.value f)
  | object (storage : Storage) (multiValued : Bool) {children children' : List (String × Node)}
      (h : Fields.Enlarged new children children') :
      Node.Enlarged new (.object storage multiValued children)
        (.object storage multiValued children')

/-- The fields with fields of new names added, among them or somewhere below them. -/
inductive Fields.Enlarged (new : String → Prop) :
    List (String × Node) → List (String × Node) → Prop
  | nil : Fields.Enlarged new [] []
  | kept {name : String} {node node' : Node} {fields fields' : List (String × Node)}
      (hnode : Node.Enlarged new node node') (h : Fields.Enlarged new fields fields') :
      Fields.Enlarged new ((name, node) :: fields) ((name, node') :: fields')
  | added {name : String} {node : Node} {fields fields' : List (String × Node)}
      (hname : new name) (h : Fields.Enlarged new fields fields') :
      Fields.Enlarged new fields ((name, node) :: fields')

end

/-- The scope with fields of new names added to the schemas of its indexes. -/
def SearchScope.Enlarged (new : String → Prop) (s s' : SearchScope) : Prop :=
  List.Forall₂ (fun i i' : TargetIndex => i'.name = i.name ∧ i'.named = i.named ∧
    Fields.Enlarged new i.schema.fields i'.schema.fields) s.indexes s'.indexes

/-- No segment of the path has a new name. -/
def FieldPath.Avoids (new : String → Prop) (p : FieldPath) : Prop := ∀ name ∈ p.names, ¬ new name

variable {new : String → Prop}

/-- A path below a root avoids new names if both of its parts do. -/
theorem FieldPath.Avoids.joinUnder {root : Option FieldPath} {p : FieldPath}
    (hroot : ∀ r ∈ root, r.Avoids new) (hp : p.Avoids new) :
    (FieldPath.joinUnder root p).Avoids new := by
  cases root with
  | none => exact hp
  | some r =>
    intro name hname
    rw [FieldPath.joinUnder_some, FieldPath.names_join, List.mem_append] at hname
    rcases hname with hname | hname
    · exact hroot r rfl name hname
    · exact hp name hname

/-! ## Outlines -/

namespace Node

/-- The node without what is below it. -/
def outline : Node → Node
  | .value f => .value f
  | .object storage multiValued _ => .object storage multiValued []

@[simp] theorem outline_outline (node : Node) : node.outline.outline = node.outline := by
  cases node <;> rfl

@[simp] theorem kind_outline (node : Node) : node.outline.kind = node.kind := by
  cases node <;> rfl

@[simp] theorem isNested_outline (node : Node) : node.outline.isNested = node.isNested := by
  cases node with
  | value f => rfl
  | object storage multiValued children => cases storage <;> rfl

@[simp] theorem supports_outline (node : Node) (usage : Usage) :
    node.outline.supports usage = node.supports usage := by
  cases node with
  | value f => rfl
  | object storage multiValued children => cases storage <;> cases usage <;> rfl

theorem Enlarged.outline_eq {node node' : Node} (h : node.Enlarged new node') :
    node'.outline = node.outline := by
  cases h <;> rfl

theorem Enlarged.isNested_eq {node node' : Node} (h : node.Enlarged new node') :
    node'.isNested = node.isNested := by
  rw [← isNested_outline node', h.outline_eq, isNested_outline]

end Node

/-- The resolution without what is below the field. -/
def Resolution.outline (r : Resolution) : Resolution := { r with node := r.node.outline }

/-- The resolution without what is below the field in any index. -/
def ScopedResolution.outline (r : ScopedResolution) : ScopedResolution :=
  { r with found := r.found.map Resolution.outline }

/-! ## Following a path -/

/-- A name that is not new finds what it found before. -/
theorem Fields.Enlarged.find? {fields fields' : Fields} (h : Fields.Enlarged new fields fields')
    {name : String} (hname : ¬ new name) :
    (fields.find? name = none ∧ fields'.find? name = none) ∨
      ∃ node node', fields.find? name = some node ∧ fields'.find? name = some node' ∧
        node.Enlarged new node' :=
  match h with
  | .nil => .inl ⟨rfl, rfl⟩
  | @Fields.Enlarged.kept _ first node node' _ _ hnode hrest => by
    unfold Fields.find?
    rw [List.lookup_cons, List.lookup_cons]
    cases hfirst : name == first with
    | true => exact .inr ⟨node, node', rfl, rfl, hnode⟩
    | false => exact hrest.find? hname
  | @Fields.Enlarged.added _ first _ _ _ hnew hrest => by
    have hfirst : (name == first) = false := by
      rw [beq_eq_false_iff_ne]
      rintro rfl
      exact hname hnew
    unfold Fields.find?
    rw [List.lookup_cons, hfirst]
    exact hrest.find? hname

/-- A descent along names that are not new ends as it ended before. -/
theorem descend_enlarged {index : String} {full : FieldPath} {fields fields' : Fields}
    (h : Fields.Enlarged new fields fields') {chain : NestingChain} {place : Option FieldPath}
    {s : Segment} {rest : List Segment} (hs : ∀ t ∈ s :: rest, ¬ new t.name) :
    (descend index full fields' chain place s rest).map Resolution.outline =
      (descend index full fields chain place s rest).map Resolution.outline := by
  induction rest generalizing fields fields' chain place s with
  | nil =>
    unfold descend
    obtain ⟨hnone, hnone'⟩ | ⟨node, node', hnode, hnode', henlarged⟩ :=
      h.find? (hs s List.mem_cons_self)
    · simp only [hnone, hnone']
    · have houtline := henlarged.outline_eq
      simp only [hnode, hnode', henlarged.isNested_eq, Except.map, Resolution.outline, houtline]
  | cons next rest ih =>
    unfold descend
    obtain ⟨hnone, hnone'⟩ | ⟨node, node', hnode, hnode', henlarged⟩ :=
      h.find? (hs s List.mem_cons_self)
    · simp only [hnone, hnone']
    · simp only [hnode, hnode']
      cases henlarged with
      | value f => rfl
      | object storage multiValued hchildren =>
        -- The chain grows by the same scope, since being nested is not a matter of the children.
        have hnested := (Node.Enlarged.object storage multiValued hchildren).isNested_eq
        simp only [hnested]
        exact ih hchildren fun t ht => hs t (List.mem_cons_of_mem s ht)

/-- **A path that avoids new names leads where it led before**, up to what is below the field. -/
theorem Definition.resolve_enlarged {d d' : Definition} (hindex : d'.index = d.index)
    (h : Fields.Enlarged new d.fields d'.fields) {p : FieldPath} (hp : p.Avoids new) :
    (d'.resolve p).map Resolution.outline = (d.resolve p).map Resolution.outline := by
  unfold Definition.resolve
  rw [hindex]
  refine descend_enlarged h fun t ht => hp t.name ?_
  exact List.mem_map_of_mem ht

/-- Whether a path leads to a field can be told from the outline. -/
theorem Definition.isSome_node?_of_outline {d d' : Definition} {p : FieldPath}
    (h : (d'.resolve p).map Resolution.outline = (d.resolve p).map Resolution.outline) :
    (d'.node? p).isSome = (d.node? p).isSome := by
  have hok : ∀ d : Definition,
      (d.node? p).isSome = ((d.resolve p).map Resolution.outline).toOption.isSome := by
    intro d
    rw [Bool.eq_iff_iff]
    constructor
    · intro hsome
      obtain ⟨node, hnode⟩ := Option.isSome_iff_exists.mp hsome
      rw [Definition.resolve_eq_ok_iff.mpr ⟨node, hnode, rfl⟩]
      rfl
    · intro hsome
      cases hr : d.resolve p with
      | error e => simp [hr, Except.map, Except.toOption] at hsome
      | ok r =>
        obtain ⟨node, hnode, -⟩ := Definition.resolve_eq_ok_iff.mp hr
        rw [hnode]
        rfl
  rw [hok, hok, h]

/-! ## Scopes -/

namespace SearchScope

variable {s s' : SearchScope}

/-- What each index makes of a path, without what is below the field. -/
def outlines (s : SearchScope) (p : FieldPath) : List (String × Except SchemaError Resolution) :=
  s.indexes.map fun i => (i.name, (i.schema.resolve p).map Resolution.outline)

/-- What does not change for an index does not change for the list of them. -/
theorem Enlarged.map_eq {β : Type} (h : s.Enlarged new s') {f : TargetIndex → β}
    (hf : ∀ i i' : TargetIndex, i'.name = i.name → i'.named = i.named →
      Fields.Enlarged new i.schema.fields i'.schema.fields → f i' = f i) :
    s'.indexes.map f = s.indexes.map f := by
  unfold Enlarged at h
  generalize s.indexes = indexes, s'.indexes = indexes' at h
  induction h with
  | nil => rfl
  | cons hi hrest ih => rw [List.map_cons, List.map_cons, ih, hf _ _ hi.1 hi.2.1 hi.2.2]

theorem Enlarged.outlines_eq (h : s.Enlarged new s') {p : FieldPath} (hp : p.Avoids new) :
    s'.outlines p = s.outlines p := by
  refine h.map_eq fun i i' hname _ hfields => ?_
  rw [hname, Definition.resolve_enlarged hname hfields hp]

theorem difference?_outline (l r : Resolution) :
    difference? l.outline r.outline = difference? l r := by
  obtain ⟨_, _, lc, ln⟩ := l
  obtain ⟨_, _, rc, rn⟩ := r
  cases ln <;> cases rn <;> rfl

theorem findSome?_difference? (first : Resolution) (others : List Resolution) :
    (others.findSome? fun other => (difference? first other).map fun d => (other.index, d)) =
      (others.map Resolution.outline).findSome? fun other =>
        (difference? first.outline other).map fun d => (other.index, d) := by
  rw [List.findSome?_map]
  refine congrArg (List.findSome? · others) (funext fun other => ?_)
  simp only [Function.comp, difference?_outline]
  rfl

/-- What does not look below a field can be told from the outlines. -/
theorem filterMap_eq_of_outlines {β : Type}
    {attempts attempts' : List (String × Except SchemaError Resolution)}
    (h : attempts'.map (fun a => (a.1, a.2.map Resolution.outline)) =
      attempts.map fun a => (a.1, a.2.map Resolution.outline))
    {f : String × Except SchemaError Resolution → Option β}
    (hf : ∀ a, f (a.1, a.2.map Resolution.outline) = f a) :
    attempts'.filterMap f = attempts.filterMap f := by
  have hmap : ∀ l : List (String × Except SchemaError Resolution),
      l.filterMap f = (l.map fun a => (a.1, a.2.map Resolution.outline)).filterMap f := by
    intro l
    rw [List.filterMap_map]
    exact List.filterMap_congr fun a _ => (hf a).symm
  rw [hmap attempts', h, ← hmap attempts]

/-- **Scopes whose indexes make the same of a path resolve it alike.** -/
theorem resolve_of_outlines {root : Option FieldPath} {path : FieldPath}
    (h : s'.outlines (.joinUnder root path) = s.outlines (.joinUnder root path)) (usage : Usage) :
    (s'.resolve root path usage).map ScopedResolution.outline =
      (s.resolve root path usage).map ScopedResolution.outline := by
  have hattempts : (s'.indexes.map fun i => (i.name, i.schema.resolve (.joinUnder root path))).map
        (fun a => (a.1, a.2.map Resolution.outline)) =
      (s.indexes.map fun i => (i.name, i.schema.resolve (.joinUnder root path))).map
        fun a => (a.1, a.2.map Resolution.outline) := by
    rw [List.map_map, List.map_map]
    exact h
  unfold resolve
  simp only [Definition.resolveFrom_eq_resolve]
  generalize (s'.indexes.map fun i => (i.name, i.schema.resolve (.joinUnder root path))) =
    attempts' at hattempts
  generalize (s.indexes.map fun i => (i.name, i.schema.resolve (.joinUnder root path))) =
    attempts at hattempts
  -- What went wrong is the same, what was found is the same up to outlines.
  have hfound : (attempts'.filterMap fun a => a.2.toOption).map Resolution.outline =
      (attempts.filterMap fun a => a.2.toOption).map Resolution.outline := by
    rw [List.map_filterMap, List.map_filterMap]
    refine filterMap_eq_of_outlines hattempts fun a => ?_
    cases a.2 <;> simp [Except.map, Except.toOption, Resolution.outline]
  rw [@filterMap_eq_of_outlines (String × SchemaError) _ _ hattempts _ fun a => by cases a.2 <;> rfl]
  generalize (attempts'.filterMap fun a => a.2.toOption) = found' at hfound
  generalize (attempts.filterMap fun a => a.2.toOption) = found at hfound
  cases found' with
  | nil =>
    obtain rfl := List.map_eq_nil_iff.mp hfound.symm
    rfl
  | cons first' others' =>
    cases found with
    | nil => cases hfound
    | cons first others =>
      obtain ⟨hfirst, hothers⟩ := List.cons.inj hfound
      have hindex : first'.index = first.index := by
        have hsame := congrArg Resolution.index hfirst
        exact hsame
      have hdiffering : (others'.findSome? fun other =>
            (difference? first' other).map fun d => (other.index, d)) =
          others.findSome? fun other => (difference? first other).map fun d => (other.index, d) := by
        rw [findSome?_difference?, hfirst, hothers, ← findSome?_difference?]
      have hscoped : ScopedResolution.outline ⟨first'.path, first'.chain, first'.kind,
          first' :: others'⟩ = ScopedResolution.outline ⟨first.path, first.chain, first.kind,
            first :: others⟩ := by
        have hparts := Resolution.mk.inj hfirst
        have hkind : first'.kind = first.kind := by
          unfold Resolution.kind
          rw [← Node.kind_outline first'.node, hparts.2.2.2, Node.kind_outline]
        unfold ScopedResolution.outline
        rw [hkind, hparts.2.1, hparts.2.2.1, List.map_cons, List.map_cons, hfirst, hothers]
      simp only [hindex, hdiffering]
      generalize (List.find? _ _ : Option (String × SchemaError)) = blocked
      cases blocked with
      | some b => rfl
      | none =>
        generalize List.findSome? _ others = differing
        cases differing with
        | some d => rfl
        | none => exact congrArg Except.ok hscoped

end SearchScope

/-- **What a query asks of a resolution can be told from its outline.** -/
theorem ScopedResolution.eq_of_outline {r r' : ScopedResolution} (h : r'.outline = r.outline) :
    r'.path = r.path ∧ r'.chain = r.chain ∧ r'.kind = r.kind ∧
      ∀ usage, r'.require usage = r.require usage := by
  obtain ⟨hpath, hchain, hkind, hfound⟩ := ScopedResolution.mk.inj h
  refine ⟨hpath, hchain, hkind, fun usage => ?_⟩
  have hlook : ∀ found : List Resolution,
      (found.find? fun f => !f.node.supports usage).map Resolution.outline =
        (found.map Resolution.outline).find? fun f => !f.node.supports usage := by
    intro found
    rw [List.find?_map]
    refine congrArg (Option.map Resolution.outline) (congrArg (List.find? · found) (funext fun f => ?_))
    simp [Resolution.outline]
  have hsame := (hlook r'.found).trans ((congrArg _ hfound).trans (hlook r.found).symm)
  unfold require
  generalize (r'.found.find? fun f => !f.node.supports usage) = unsupported' at hsame
  generalize (r.found.find? fun f => !f.node.supports usage) = unsupported at hsame
  cases unsupported' with
  | none =>
    cases unsupported with
    | none => rfl
    | some f => cases hsame
  | some f' =>
    cases unsupported with
    | none => cases hsame
    | some f =>
      have hparts := Resolution.mk.inj (Option.some.inj hsame)
      simp only [hparts.1, hparts.2.1]

/-! ## Comparing -/

namespace Compatibility

variable {request : CompatibilityRequest} {path : FieldPath}

/-- How an index takes part, without what is below the field. -/
def Presence.outline : Presence → Presence
  | .found r => .found r.outline
  | .blocked index e => .blocked index e

theorem comparePresences_outline (l r : Presence) :
    comparePresences request l.outline r.outline = comparePresences request l r := by
  cases l with
  | blocked index e => cases r <;> rfl
  | found l =>
    cases r with
    | blocked index e => rfl
    | found r =>
      obtain ⟨_, _, lc, ln⟩ := l
      obtain ⟨_, _, rc, rn⟩ := r
      cases ln <;> cases rn <;> rfl

theorem compareAll_outline (baseline : Presence) (others : List Presence) :
    compareAll path request baseline.outline (others.map Presence.outline) =
      compareAll path request baseline others := by
  have hindex : ∀ p : Presence, p.outline.index = p.index := by
    intro p
    cases p <;> rfl
  induction others with
  | nil => rfl
  | cons other others ih =>
    rw [List.map_cons, compareAll, compareAll, comparePresences_outline, ih, hindex, hindex]

/-- The two schemas make the same of the path, up to what is below the field. -/
def SameOutline (path : FieldPath) (d d' : Definition) : Prop :=
  d'.index = d.index ∧
    (d'.resolve path).map Resolution.outline = (d.resolve path).map Resolution.outline

theorem presences_of_outlines {schemas schemas' : List Definition}
    (h : List.Forall₂ (SameOutline path) schemas schemas') :
    (presences path schemas').1.map Presence.outline =
        (presences path schemas).1.map Presence.outline ∧
      (presences path schemas').2 = (presences path schemas).2 := by
  induction h with
  | nil => exact ⟨rfl, rfl⟩
  | @cons d d' ds ds' hd hrest ih =>
    obtain ⟨hindex, hresolve⟩ := hd
    rw [presences, presences]
    cases hr' : d'.resolve path with
    | ok r' =>
      cases hr : d.resolve path with
      | error e => simp [hr', hr, Except.map] at hresolve
      | ok r =>
        rw [hr', hr] at hresolve
        simp only [List.map_cons, Presence.outline, Except.ok.inj hresolve, ih.1, ih.2, and_self]
    | error e' =>
      cases hr : d.resolve path with
      | ok r => simp [hr', hr, Except.map] at hresolve
      | error e =>
        rw [hr', hr] at hresolve
        obtain rfl : e' = e := Except.error.inj hresolve
        cases hunknown : e'.isUnknownField with
        | true => simp [hunknown, ih.1]
        | false => simp [hunknown, ih.1, ih.2, Presence.outline, hindex]

end Compatibility

open Compatibility in
/-- **Schemas that make the same of a path get the same verdict on it.** -/
theorem checkCompatibility_of_outlines {path : FieldPath} {schemas schemas' : List Definition}
    (h : List.Forall₂ (SameOutline path) schemas schemas') (request : CompatibilityRequest) :
    checkCompatibility path request schemas' = checkCompatibility path request schemas := by
  obtain ⟨hpresent, habsence⟩ := presences_of_outlines h
  have hfound : ∀ present : List Presence,
      (present.map Presence.outline).findSome? Presence.found? =
        (present.findSome? Presence.found?).map Resolution.outline := by
    intro present
    rw [List.findSome?_map, List.map_findSome?]
    refine congrArg (List.findSome? · present) (funext fun p => ?_)
    cases p <;> rfl
  unfold checkCompatibility
  generalize presences path schemas' = outcome' at hpresent habsence
  generalize presences path schemas = outcome at hpresent habsence
  obtain ⟨present', absence'⟩ := outcome'
  obtain ⟨present, absence⟩ := outcome
  obtain rfl : absence' = absence := habsence
  cases present' with
  | nil =>
    obtain rfl := List.map_eq_nil_iff.mp hpresent.symm
    rfl
  | cons baseline' others' =>
    cases present with
    | nil => cases hpresent
    | cons baseline others =>
      have hsome := (hfound (baseline' :: others')).symm.trans
        ((congrArg _ hpresent).trans (hfound (baseline :: others)))
      obtain ⟨hbaseline, hothers⟩ := List.cons.inj hpresent
      have hcompare : compareAll path request baseline' others' =
          compareAll path request baseline others := by
        rw [← compareAll_outline, hbaseline, hothers, compareAll_outline]
      simp only [hcompare]
      generalize (baseline' :: others').findSome? Presence.found? = first' at hsome
      generalize (baseline :: others).findSome? Presence.found? = first at hsome
      cases first' with
      | some r' =>
        cases first with
        | some r => rfl
        | none => cases hsome
      | none =>
        cases first with
        | some r => cases hsome
        | none =>
          cases baseline' with
          | found r' =>
            cases baseline with
            | found r => rfl
            | blocked index e => cases hbaseline
          | blocked index' e' =>
            cases baseline with
            | found r => cases hbaseline
            | blocked index e =>
              cases hbaseline
              rfl

/-! ## What else a query asks of a scope -/

namespace SearchScope.Enlarged

variable {s s' : SearchScope}

theorem sameOutline (h : s.Enlarged new s') {p : FieldPath} (hp : p.Avoids new) :
    List.Forall₂ (Compatibility.SameOutline p) s.schemas s'.schemas := by
  unfold SearchScope.schemas
  rw [List.forall₂_map_left_iff, List.forall₂_map_right_iff]
  exact List.Forall₂.imp
    (fun i i' ⟨hname, _, hfields⟩ => ⟨hname, Definition.resolve_enlarged hname hfields hp⟩) h

theorem indexNames_eq (h : s.Enlarged new s') : s'.indexNames = s.indexNames := by
  unfold SearchScope.indexNames
  rw [h.map_eq fun i i' hname _ _ => hname]

theorem isMultiIndex_eq (h : s.Enlarged new s') : s'.isMultiIndex = s.isMultiIndex := by
  unfold isMultiIndex
  rw [List.Forall₂.length_eq h]

/-- A path that avoids new names resolves as before. -/
theorem resolve_eq (h : s.Enlarged new s') {root : Option FieldPath} {path : FieldPath}
    (hroot : ∀ r ∈ root, r.Avoids new) (hpath : path.Avoids new) (usage : Usage) :
    (s'.resolve root path usage).map ScopedResolution.outline =
      (s.resolve root path usage).map ScopedResolution.outline :=
  resolve_of_outlines (h.outlines_eq (hpath.joinUnder hroot)) usage

end SearchScope.Enlarged
end NestedSearch
