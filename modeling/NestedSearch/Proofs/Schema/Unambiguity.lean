import Mathlib.Data.List.Nodup
import NestedSearch.Proofs.Schema.Walk

/-!
# Schemas as trees of names

Three recursions go through the fields of a schema: the check, the walk and the lookup by name. Once
the check has passed, the other two describe one tree, in which a path is a place. The walk lists
every place once, parents first, also when paths are only seen in their dotted form
(`Schema.isTree`).

What the check refuses can be said without it, for one list of fields at a time
(`Fields.IsSound`): the check passes if and only if every list of fields in the definition, at any
depth, is sound (`checkFields_eq_ok_iff`).
-/

namespace NestedSearch

/-! ## Lists of fields, at any depth -/

/-- The lists of fields in a tree: the outermost one, and those of the objects in it at any depth. -/
inductive Fields.Level : Fields → Fields → Prop
  | top (fields : Fields) : Level fields fields
  | within {fields children level : Fields} {name : String} {storage : Storage} {multiValued : Bool}
      (mem : (name, .object storage multiValued children) ∈ fields) (inside : Level children level) :
      Level fields level

/-- What one list of fields must keep to, whatever is below it. -/
structure Fields.IsSound (level : Fields) : Prop where
  distinct : (level.map Prod.fst).Nodup
  segments : ∀ x ∈ level, x.1 ≠ "" ∧ separator ∉ x.1.toList
  declared : ∀ name f, (name, .value f) ∈ level → f.WellDeclared

/-- All lists of fields in a tree are sound. -/
def Fields.AllSound (fields : Fields) : Prop := ∀ level, fields.Level level → level.IsSound

namespace Fields

variable {name : String} {node : Node} {rest : Fields}

theorem isSound_cons_iff : IsSound ((name, node) :: rest) ↔
    (name ≠ "" ∧ separator ∉ name.toList) ∧ (∀ x ∈ rest, x.1 ≠ name) ∧
      (∀ f, node = .value f → f.WellDeclared) ∧ rest.IsSound := by
  have hnodup : (((name, node) :: rest).map Prod.fst).Nodup ↔
      (∀ x ∈ rest, x.1 ≠ name) ∧ (rest.map Prod.fst).Nodup := by
    rw [List.map_cons, List.nodup_cons, List.mem_map]
    refine and_congr_left fun _ => ?_
    constructor
    · intro h x hx heq
      exact h ⟨x, hx, heq⟩
    · rintro h ⟨x, hx, heq⟩
      exact h x hx heq
  constructor
  · rintro ⟨hdistinct, hsegments, hdeclared⟩
    obtain ⟨hhead, hsegments⟩ := List.forall_mem_cons.mp hsegments
    obtain ⟨hfresh, hdistinct⟩ := hnodup.mp hdistinct
    refine ⟨hhead, hfresh, fun f hf => ?_, hdistinct, hsegments, fun other f hmem => ?_⟩
    · exact hdeclared name f (hf ▸ List.mem_cons_self)
    · exact hdeclared other f (List.mem_cons_of_mem _ hmem)
  · rintro ⟨hhead, hfresh, hfirst, hdistinct, hsegments, hdeclared⟩
    refine ⟨hnodup.mpr ⟨hfresh, hdistinct⟩, List.forall_mem_cons.mpr ⟨hhead, hsegments⟩, ?_⟩
    intro other f hmem
    rcases List.mem_cons.mp hmem with heq | hmem
    · exact hfirst f (Prod.mk.inj heq).2.symm
    · exact hdeclared other f hmem

theorem allSound_nil : AllSound [] := by
  intro level hlevel
  cases hlevel with
  | top => exact ⟨.nil, by simp, by simp⟩
  | within mem _ => cases mem

theorem allSound_cons_iff : AllSound ((name, node) :: rest) ↔
    IsSound ((name, node) :: rest) ∧ AllSound node.children ∧ rest.AllSound := by
  constructor
  · intro h
    have hwhole := h _ (.top _)
    refine ⟨hwhole, fun level hlevel => ?_, fun level hlevel => ?_⟩
    · cases node with
      | value f => exact allSound_nil level hlevel
      | object storage multiValued children => exact h level (.within List.mem_cons_self hlevel)
    · cases hlevel with
      | top => exact (isSound_cons_iff.mp hwhole).2.2.2
      | within mem inside => exact h level (.within (List.mem_cons_of_mem _ mem) inside)
  · rintro ⟨hwhole, hchildren, hrest⟩ level hlevel
    cases hlevel with
    | top => exact hwhole
    | within mem inside =>
      rcases List.mem_cons.mp mem with heq | mem
      · cases heq
        exact hchildren level inside
      · exact hrest level (.within mem inside)

end Fields

/-! ## The check -/

theorem checkFields_cons_iff {index name : String} {parent : Option FieldPath} {seen : List String}
    {node : Node} {rest : Fields} :
    checkFields index parent seen ((name, node) :: rest) = .ok () ↔
      ∃ s, Segment.ofName name = .ok s ∧ name ∉ seen ∧
        node.check index (.childOf parent s) = .ok () ∧
          checkFields index parent (name :: seen) rest = .ok () := by
  refine ⟨checkFields_cons_ok, ?_⟩
  rintro ⟨s, hs, hseen, hnode, hrest⟩
  rw [checkFields, hs]
  simp only
  rw [if_neg hseen, hnode]
  exact hrest

section Check

variable {index : String}

mutual

theorem Node.check_eq_ok_iff : ∀ (node : Node) {path : FieldPath},
    node.check index path = .ok () ↔
      (∀ f, node = .value f → f.WellDeclared) ∧ Fields.AllSound node.children
  | .value f, path => by
    have hfield : (Node.value f).check index path = .ok () ↔ f.check index path = .ok () := by
      rw [Node.check]
      cases f.check index path <;> simp [Except.mapError]
    rw [hfield, ValueField.check_eq_ok_iff]
    constructor
    · intro h
      exact ⟨fun g hg => Node.value.inj hg ▸ h, Fields.allSound_nil⟩
    · rintro ⟨h, -⟩
      exact h f rfl
  | .object storage multiValued children, path => by
    rw [Node.check, checkFields_eq_ok_iff children]
    simp [Node.children]

/-- **The check passes if and only if every list of fields is sound,** and none of the outermost
    names has been seen before. -/
theorem checkFields_eq_ok_iff : ∀ (fields : List (String × Node)) {parent : Option FieldPath}
    {seen : List String}, checkFields index parent seen fields = .ok () ↔
      Fields.AllSound fields ∧ ∀ x ∈ fields, x.1 ∉ seen
  | [], parent, seen => by simp [checkFields, Fields.allSound_nil]
  | (name, node) :: rest, parent, seen => by
    have hnode : ∀ s, node.check index (.childOf parent s) = .ok () ↔ _ :=
      fun s => Node.check_eq_ok_iff node
    have hfresh : (∀ x ∈ rest, x.1 ∉ name :: seen) ↔
        (∀ x ∈ rest, x.1 ≠ name) ∧ ∀ x ∈ rest, x.1 ∉ seen := by
      simp only [List.mem_cons, not_or, ← forall_and]
    simp only [checkFields_cons_iff, hnode, checkFields_eq_ok_iff rest, hfresh,
      Fields.allSound_cons_iff, Fields.isSound_cons_iff, ← Segment.exists_ofName_iff,
      List.forall_mem_cons]
    constructor
    · rintro ⟨s, hs, hseen, ⟨hvalue, hchildren⟩, hall, hnames, hrest⟩
      exact ⟨⟨⟨⟨s, hs⟩, hnames, hvalue, hall rest (.top rest)⟩, hchildren, hall⟩, hseen, hrest⟩
    · rintro ⟨⟨⟨⟨s, hs⟩, hnames, hvalue, -⟩, hchildren, hall⟩, hseen, hrest⟩
      exact ⟨s, hs, hseen, ⟨hvalue, hchildren⟩, hall, hnames, hrest⟩

end

end Check

theorem Definition.check_eq_ok_iff {d : Definition} :
    d.check = .ok () ↔ Text.isBlank d.index = false ∧ d.fields.AllSound := by
  unfold check
  rw [refuse_eq_ok_iff, checkFields_eq_ok_iff]
  simp

theorem Schema.ofDefinition_eq_error_iff {d : Definition} :
    (∃ e, ofDefinition d = .error e) ↔ ¬d.check = .ok () := by
  unfold ofDefinition
  split
  · rename_i hok
    simp [hok]
  · rename_i e herr
    simp [herr]

/-- A list of fields is not sound for one of three reasons. -/
theorem Fields.not_isSound_iff {level : Fields} : ¬level.IsSound ↔
    ¬(level.map Prod.fst).Nodup ∨ (∃ x ∈ level, x.1 = "" ∨ separator ∈ x.1.toList) ∨
      ∃ name f, (name, .value f) ∈ level ∧ ¬f.WellDeclared := by
  constructor
  · intro h
    by_contra hnone
    push Not at hnone
    obtain ⟨hdistinct, hsegments, hdeclared⟩ := hnone
    exact h ⟨hdistinct, hsegments, hdeclared⟩
  · rintro (h | ⟨x, hx, h⟩ | ⟨name, f, hmem, h⟩) hsound
    · exact h hsound.distinct
    · obtain ⟨hnonempty, hunseparated⟩ := hsound.segments x hx
      exact h.elim hnonempty hunseparated
    · exact h (hsound.declared name f hmem)

/-! ## The walk and the lookup -/

/-- The walk and the lookup see one tree, in which no two places have the same path. -/
structure Definition.IsTree (d : Definition) : Prop where
  paths_distinct : (d.walk.map Prod.fst).Nodup
  texts_distinct : (d.walk.map fun x => x.1.toString).Nodup
  /-- Each ancestor of a listed path is listed before it. -/
  ancestors_first : ∀ x ∈ d.walk, ∀ a : FieldPath, a.isAncestorOf x.1 = true →
    [a, x.1].Sublist (d.walk.map Prod.fst)
  mem_walk_iff : ∀ p n, (p, n) ∈ d.walk ↔ d.node? p = some n

theorem FieldPath.not_startsWith_join (p q : FieldPath) : p.startsWith (p.join q) = false := by
  rw [Bool.eq_false_iff]
  intro h
  have hlen := length_le_of_startsWith h
  have hpos := q.length_pos
  rw [length_join] at hlen
  omega

/-- Below different names no path starts with another. -/
theorem FieldPath.startsWith_joinUnder_of_ne {parent : Option FieldPath} {s t : Segment}
    (h : s ≠ t) (rest more : List Segment) :
    (joinUnder parent ⟨s, rest⟩).startsWith (joinUnder parent ⟨t, more⟩) = false := by
  rw [Bool.eq_false_iff, ne_eq, startsWith_iff_initial]
  intro hprefix
  have hcons : t :: more <+: s :: rest := by
    cases parent with
    | none => exact hprefix
    | some root =>
      rw [joinUnder_some, joinUnder_some, segments_join, segments_join] at hprefix
      exact (List.prefix_append_right_inj root.segments).mp hprefix
  exact h (List.cons_prefix_cons.mp hcons).1.symm

section Order

variable {index : String}

/-- No path starts with one that is listed after it. -/
def ParentsFirst (listed : List (FieldPath × Node)) : Prop :=
  listed.Pairwise fun x y => x.1.startsWith y.1 = false

mutual

theorem Node.parentsFirst_walk : ∀ (node : Node) {parent : Option FieldPath} {s : Segment},
    node.check index (.childOf parent s) = .ok () → ParentsFirst (node.walk (.childOf parent s))
  | .value f, _, _, _ => List.pairwise_singleton _ _
  | .object storage multiValued children, parent, s, h => by
    rw [Node.check] at h
    refine List.pairwise_cons.mpr ⟨?_, parentsFirst_walkFields children h⟩
    intro x hx
    obtain ⟨t, node, rest, -, hp, -⟩ := (mem_walkFields_iff children h).mp hx
    rw [hp, FieldPath.joinUnder_some]
    exact FieldPath.not_startsWith_join _ _

theorem parentsFirst_walkFields : ∀ (fields : List (String × Node)) {parent : Option FieldPath}
    {seen : List String}, checkFields index parent seen fields = .ok () →
      ParentsFirst (walkFields parent fields)
  | [], _, _, _ => .nil
  | (name, node) :: rest, parent, seen, h => by
    obtain ⟨s, hs, -, hnode, hrest⟩ := checkFields_cons_ok h
    rw [walkFields, Segment.ofName?_of_ofName hs]
    refine List.pairwise_append.mpr ⟨Node.parentsFirst_walk node hnode,
      parentsFirst_walkFields rest hrest, ?_⟩
    intro x hx y hy
    obtain ⟨below, hbelow, -⟩ := (Node.mem_walk_iff node hnode).mp hx
    obtain ⟨t, other, more, hother, hmore, -⟩ := (mem_walkFields_iff rest hrest).mp hy
    -- The name of the first field has been seen when the others are checked.
    have hne : s ≠ t := by
      rintro rfl
      have hseen := notMem_seen_of_check hrest hother
      rw [Segment.name_of_ofName hs] at hseen
      exact hseen List.mem_cons_self
    rw [hbelow, hmore]
    exact FieldPath.startsWith_joinUnder_of_ne hne below more

end

end Order

namespace Schema

theorem parentsFirst_walk (d : Schema) : ParentsFirst d.walk :=
  parentsFirst_walkFields d.fields d.checkFields_eq

theorem nodup_walk (d : Schema) : (d.walk.map Prod.fst).Nodup := by
  refine List.pairwise_map.mpr (d.parentsFirst_walk.imp ?_)
  intro x y hxy heq
  rw [heq, FieldPath.startsWith_self] at hxy
  cases hxy

end Schema

/-- Of two elements of a list in which only one order of them is allowed, that is the order in which
    they occur. -/
theorem pair_sublist_of_pairwise {α : Type} {R : α → α → Prop} {l : List α} {a b : α}
    (hl : l.Pairwise R) (ha : a ∈ l) (hb : b ∈ l) (hne : a ≠ b) (h : ¬R b a) : [a, b].Sublist l := by
  induction l with
  | nil => cases ha
  | cons x rest ih =>
    obtain ⟨hx, hrest⟩ := List.pairwise_cons.mp hl
    rcases List.mem_cons.mp ha with rfl | ha'
    · have hb' := (List.mem_cons.mp hb).resolve_left hne.symm
      exact (List.singleton_sublist.mpr hb').cons_cons a
    · rcases List.mem_cons.mp hb with rfl | hb'
      · exact absurd (hx a ha') h
      · exact (ih hrest ha' hb').cons x

theorem Schema.isTree (d : Schema) : d.IsTree where
  paths_distinct := d.nodup_walk
  texts_distinct := by
    have h := List.Nodup.map FieldPath.toString_injective d.nodup_walk
    rwa [List.map_map] at h
  ancestors_first := by
    intro x hx a hanc
    obtain ⟨r, hr⟩ := FieldPath.isAncestorOf_iff.mp hanc
    have hnode := mem_walk_iff.mp hx
    rw [hr] at hnode
    obtain ⟨node, hnode⟩ := Definition.node?_of_node?_join hnode
    have hpairs : (d.walk.map Prod.fst).Pairwise fun p q => p.startsWith q = false :=
      List.pairwise_map.mpr d.parentsFirst_walk
    have hne : a ≠ x.1 := by
      intro heq
      have hself := FieldPath.not_startsWith_join a r
      rw [← hr, ← heq, FieldPath.startsWith_self] at hself
      cases hself
    refine pair_sublist_of_pairwise hpairs (List.mem_map_of_mem (mem_walk_iff.mpr hnode))
      (List.mem_map_of_mem hx) hne fun hstarts => ?_
    rw [hr, FieldPath.startsWith_join] at hstarts
    cases hstarts
  mem_walk_iff := fun _ _ => mem_walk_iff

/-- **Every schema is a tree, and a definition with an index name is refused exactly if one of its
    lists of fields is at fault,** at whatever depth: for a repeated name, for a name that is no
    segment, or for a value field that declares what does not fit. -/
theorem Schema.unambiguous :
    (∀ s : Schema, s.IsTree) ∧
      ∀ d : Definition, Text.isBlank d.index = false →
        ((∃ e, ofDefinition d = .error e) ↔
          ∃ level, d.fields.Level level ∧
            (¬(level.map Prod.fst).Nodup ∨
              (∃ x ∈ level, x.1 = "" ∨ separator ∈ x.1.toList) ∨
                ∃ name f, (name, .value f) ∈ level ∧ ¬f.WellDeclared)) := by
  refine ⟨isTree, fun d hindex => ?_⟩
  have hok : d.check = .ok () ↔ d.fields.AllSound := by
    rw [Definition.check_eq_ok_iff]
    exact and_iff_right hindex
  rw [ofDefinition_eq_error_iff, hok, Fields.AllSound]
  push Not
  exact exists_congr fun level => and_congr_right fun _ => Fields.not_isSound_iff

namespace Sample

/-- Names that occur again in another object, one of them below itself. -/
def stockroom : Schema where
  index := "stockroom"
  fields :=
    [("shelf", .object .nested true
        [("shelf", .object .flattened false [("code", .value .keyword)]),
          ("code", .value (.ofType .long))]),
      ("code", .value (.text "simple"))]
  valid := by decide +kernel

/-- The fields of an object with a name that occurs twice. -/
def boxes : Fields := [("box", .value .keyword), ("box", .value (.ofType .date))]

/-- A definition with a repeated name two objects down. -/
def crowded : Definition where
  index := "crowded"
  fields :=
    [("code", .value .keyword),
      ("shelf", .object .flattened false [("row", .object .nested true boxes)])]

end Sample

/-- What `Schema.unambiguous` says of a schema in which names occur at several depths, and of a
    definition that is refused for what stands two objects down. -/
theorem Schema.unambiguous_sample :
    Sample.stockroom.IsTree ∧
      Sample.stockroom.walk.map (fun x => x.1.toString) =
        ["shelf", "shelf.shelf", "shelf.shelf.code", "shelf.code", "code"] ∧
      Text.isBlank Sample.crowded.index = false ∧
      ∃ e, ofDefinition Sample.crowded = .error e := by
  have hindex : Text.isBlank Sample.crowded.index = false := by decide +kernel
  have hlevel : Sample.crowded.fields.Level Sample.boxes :=
    .within (List.mem_cons_of_mem _ List.mem_cons_self) (.within List.mem_cons_self (.top _))
  refine ⟨unambiguous.1 _, by decide +kernel, hindex, (unambiguous.2 _ hindex).mpr ?_⟩
  exact ⟨Sample.boxes, hlevel, .inl (by decide +kernel)⟩

end NestedSearch
