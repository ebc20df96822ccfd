import NestedSearch.Proofs.Corpus.Declared

/-!
# Walking a schema

The walk lists the nodes of a schema by going through its declarations, and a path is followed by
looking names up. In a schema the two see the same nodes (`Schema.mem_walk_iff`): every declared name
is a segment, so that the walk passes over nothing, and no object declares a name twice, so that
every declaration is found by its name.
-/

namespace NestedSearch

theorem Segment.ofName?_of_ofName {name : String} {s : Segment} (h : ofName name = .ok s) :
    ofName? name = some s := by
  rw [ofName?, h]

/-- Every checked field has a segment for a name. -/
theorem exists_segment_of_check {index : String} {parent : Option FieldPath} {seen : List String}
    {fields : Fields} (h : checkFields index parent seen fields = .ok ()) {name : String}
    {node : Node} (hmem : (name, node) ∈ fields) : ∃ s : Segment, s.name = name := by
  induction fields generalizing seen with
  | nil => cases hmem
  | cons field rest ih =>
    obtain ⟨s, hs, -, -, hrest⟩ := checkFields_cons_ok h
    rcases List.mem_cons.mp hmem with rfl | hmem
    · exact ⟨s, Segment.name_of_ofName hs⟩
    · exact ih hrest hmem

/-- A field is found by its name exactly if it is declared. -/
theorem find?_eq_some_iff_of_check {index : String} {parent : Option FieldPath}
    {seen : List String} {fields : Fields} (h : checkFields index parent seen fields = .ok ())
    {name : String} {node : Node} : fields.find? name = some node ↔ (name, node) ∈ fields := by
  refine ⟨fun hfind => ?_, find?_of_check h⟩
  obtain ⟨before, after, hfields, -⟩ := List.lookup_eq_some_iff.mp hfind
  rw [hfields]
  exact List.mem_append_right before List.mem_cons_self

/-- Following a path among checked fields begins at one of them. -/
theorem nodeAt?_eq_some_iff_of_check {index : String} {parent : Option FieldPath}
    {seen : List String} {fields : Fields} (h : checkFields index parent seen fields = .ok ())
    {s : Segment} {rest : List Segment} {node : Node} :
    fields.nodeAt? s rest = some node ↔
      ∃ child, (s.name, child) ∈ fields ∧ child.below? rest = some node := by
  have hbelow : fields.nodeAt? s rest = (fields.find? s.name).bind fun child => child.below? rest :=
    Node.below?_cons (.object .flattened false fields) s rest
  rw [hbelow, Option.bind_eq_some_iff]
  exact exists_congr fun child => and_congr_left fun _ => find?_eq_some_iff_of_check h

/-! ## What the walk lists -/

section Walk

variable {index : String} {p : FieldPath} {n : Node}

mutual

/-- The walk of a node lists what is below it, the node itself included. -/
theorem Node.mem_walk_iff : ∀ (node : Node) {parent : Option FieldPath} {s : Segment},
    node.check index (.childOf parent s) = .ok () →
      ((p, n) ∈ node.walk (.childOf parent s) ↔
        ∃ rest, p = .joinUnder parent ⟨s, rest⟩ ∧ node.below? rest = some n)
  | .value f, parent, s, _ => by
    have hvalue : ∀ rest, (Node.value f).below? rest = some n ↔ rest = [] ∧ n = .value f := by
      intro rest
      rcases rest with - | ⟨t, more⟩
      · simp [Node.below?, eq_comm]
      · simp [Node.below?_cons, Node.children, Fields.find?]
    simp only [Node.walk, List.mem_singleton, Prod.mk.injEq, hvalue]
    constructor
    · rintro ⟨rfl, rfl⟩
      exact ⟨[], rfl, rfl, rfl⟩
    · rintro ⟨_, rfl, rfl, rfl⟩
      exact ⟨rfl, rfl⟩
  | .object storage multiValued children, parent, s, h => by
    rw [Node.check] at h
    have hjoin : ∀ (t : Segment) (more : List Segment),
        FieldPath.joinUnder (some (.childOf parent s)) ⟨t, more⟩ =
          .joinUnder parent ⟨s, t :: more⟩ :=
      fun t more => FieldPath.childOf_join parent s ⟨t, more⟩
    have hchildren := mem_walkFields_iff children h
    rw [Node.walk, List.mem_cons, hchildren, Prod.mk.injEq]
    constructor
    · rintro (⟨rfl, rfl⟩ | ⟨t, child, more, hchild, rfl, hn⟩)
      · exact ⟨[], rfl, rfl⟩
      · exact ⟨t :: more, hjoin t more, (nodeAt?_eq_some_iff_of_check h).mpr ⟨child, hchild, hn⟩⟩
    · rintro ⟨rest, rfl, hn⟩
      cases rest with
      | nil => exact .inl ⟨rfl, (Option.some.inj hn).symm⟩
      | cons t more =>
        obtain ⟨child, hchild, hn⟩ := (nodeAt?_eq_some_iff_of_check h).mp hn
        exact .inr ⟨t, child, more, hchild, (hjoin t more).symm, hn⟩

/-- The walk of fields lists what is below each of them. -/
theorem mem_walkFields_iff : ∀ (fields : List (String × Node)) {parent : Option FieldPath}
    {seen : List String}, checkFields index parent seen fields = .ok () →
      ((p, n) ∈ walkFields parent fields ↔
        ∃ (s : Segment) (node : Node) (rest : List Segment), (s.name, node) ∈ fields ∧
          p = .joinUnder parent ⟨s, rest⟩ ∧ node.below? rest = some n)
  | [], _, _, _ => by simp [walkFields]
  | (name, node) :: fields, parent, seen, h => by
    obtain ⟨s, hs, -, hnode, hfields⟩ := checkFields_cons_ok h
    have hname := Segment.name_of_ofName hs
    have hfirst := Node.mem_walk_iff node hnode
    rw [walkFields, Segment.ofName?_of_ofName hs]
    simp only [List.mem_append, hfirst, mem_walkFields_iff fields hfields]
    constructor
    · rintro (⟨rest, hp, hn⟩ | ⟨t, child, rest, hchild, hp, hn⟩)
      · exact ⟨s, node, rest, by rw [hname]; exact List.mem_cons_self, hp, hn⟩
      · exact ⟨t, child, rest, List.mem_cons_of_mem _ hchild, hp, hn⟩
    · rintro ⟨t, child, rest, hchild, hp, hn⟩
      rcases List.mem_cons.mp hchild with heq | hchild
      · obtain ⟨ht, rfl⟩ := Prod.mk.inj heq
        have hts := Segment.ofName_name t
        rw [ht, hs] at hts
        cases hts
        exact .inl ⟨rest, hp, hn⟩
      · exact .inr ⟨t, child, rest, hchild, hp, hn⟩

end

end Walk

namespace Schema

variable {d : Schema} {p : FieldPath} {n : Node}

/-- **The walk lists the nodes of a schema**, each with its path. -/
theorem mem_walk_iff : (p, n) ∈ d.walk ↔ d.node? p = some n := by
  rw [Definition.walk, mem_walkFields_iff _ d.checkFields_eq, Definition.node?,
    nodeAt?_eq_some_iff_of_check d.checkFields_eq]
  constructor
  · rintro ⟨s, node, rest, hnode, rfl, hn⟩
    exact ⟨node, hnode, hn⟩
  · rintro ⟨node, hnode, hn⟩
    exact ⟨p.head, node, p.tail, hnode, rfl, hn⟩

end Schema

end NestedSearch
