import NestedSearch.Corpus.Evaluation
import NestedSearch.Proofs.Corpus.Document
import NestedSearch.Proofs.Resolution
import NestedSearch.Proofs.Schema.Validity

/-!
# What a schema declares of a document

A document may hold more than its schema knows. `Node.declared` keeps what is declared: it looks
through lists, drops the members of objects that are no children of the object field, and leaves the
values of value fields as they are. Two documents with the same declared part differ in undeclared
members only.

Following a declared path and keeping what is declared can be done in either order
(`atEnd_declared`), so that at the end of such a path nothing undeclared is seen.
-/

namespace NestedSearch

/-! ## Objects in a document -/

namespace Document

mutual

/-- Rewrites the members of a document, or of each object in a list of lists. What is in the members
    is left alone. -/
def mapObjects (f : List (String × Document) → List (String × Document)) : Document → Document
  | .list items => .list (mapObjectsOf f items)
  | .object members => .object (f members)
  | d => d

def mapObjectsOf (f : List (String × Document) → List (String × Document)) :
    List Document → List Document
  | [] => []
  | d :: ds => d.mapObjects f :: mapObjectsOf f ds

end

variable {f : List (String × Document) → List (String × Document)}

mutual

theorem instances_mapObjects : ∀ d : Document,
    (d.mapObjects f).instances = d.instances.map (mapObjects f)
  | .null | .bool _ | .number _ | .text _ | .object _ => rfl
  | .list items => instancesOf_mapObjectsOf items

theorem instancesOf_mapObjectsOf : ∀ ds : List Document,
    instancesOf (mapObjectsOf f ds) = (instancesOf ds).map (mapObjects f)
  | [] => rfl
  | d :: ds => by
    rw [mapObjectsOf, instancesOf, instancesOf, List.map_append, instances_mapObjects d,
      instancesOf_mapObjectsOf ds]

end

@[simp] theorem isObject_mapObjects (d : Document) : (d.mapObjects f).isObject = d.isObject := by
  cases d <;> rfl

end Document

/-! ## The declared part -/

mutual

/-- What a field declares of a value. -/
def Node.declared : Node → Document → Document
  | .value _ => id
  | .object _ _ children => Document.mapObjects (declaredMembers children)

/-- The members that are children, each with what the child declares of it. -/
def declaredMembers : List (String × Node) → List (String × Document) → List (String × Document)
  | [], _ => []
  | (name, node) :: rest, members =>
    match members.lookup name with
    | some v => (name, node.declared v) :: declaredMembers rest members
    | none => declaredMembers rest members

end

/-- The document as a whole is an object with the fields of the schema. -/
def Definition.root (d : Definition) : Node := .object .flattened false d.fields

theorem lookup_declaredMembers (children : Fields) (members : List (String × Document))
    (name : String) :
    (declaredMembers children members).lookup name =
      (children.find? name).bind fun node => (members.lookup name).map node.declared := by
  unfold Fields.find?
  induction children with
  | nil => rfl
  | cons child rest ih =>
    obtain ⟨first, node⟩ := child
    rw [declaredMembers, List.lookup_cons]
    by_cases hname : name = first
    · subst hname
      cases hmember : members.lookup name with
      | none =>
        simp only [beq_self_eq_true]
        rw [ih, hmember]
        cases rest.lookup name <;> rfl
      | some v => simp
    · have hbeq : (name == first) = false := by simpa using hname
      rw [hbeq]
      cases members.lookup first with
      | none => exact ih
      | some v =>
        simp only [List.lookup_cons, hbeq]
        exact ih

namespace Node

/-- The node at the end of a path that starts at this node. -/
def below? (node : Node) : List Segment → Option Node
  | [] => some node
  | s :: rest => Fields.nodeAt? node.children s rest

variable {node target : Node}

theorem below?_cons (node : Node) (s : Segment) (rest : List Segment) :
    node.below? (s :: rest) =
      (Fields.find? node.children s.name).bind fun child => child.below? rest := by
  cases rest with
  | nil => cases h : Fields.find? node.children s.name <;> simp [below?, Fields.nodeAt?, h]
  | cons next rest => exact Fields.nodeAt?_cons node.children s next rest

@[simp] theorem isObject_declared (v : Document) : (node.declared v).isObject = v.isObject := by
  cases node with
  | value f => rfl
  | object storage multiValued children => exact Document.isObject_mapObjects v

theorem instances_declared (d : Document) :
    (node.declared d).instances = d.instances.map node.declared := by
  cases node with
  | value f => exact (List.map_id _).symm
  | object storage multiValued children => exact Document.instances_mapObjects d

/-- A declared member is there exactly if it was there before. -/
theorem get?_declared {name : String} {child : Node}
    (h : Fields.find? node.children name = some child) (v : Document) :
    (node.declared v).get? name = (v.get? name).map child.declared := by
  cases node with
  | value f => cases h
  | object storage multiValued children =>
    cases v with
    | object members =>
      have hfind : Fields.find? children name = some child := h
      show (declaredMembers children members).lookup name = (members.lookup name).map child.declared
      rw [lookup_declaredMembers, hfind, Option.bind_some]
    | _ => rfl

/-- **At the end of a declared path stands what the field at its end declares.** -/
theorem atEnd_declared {path : List Segment} (h : node.below? path = some target) (d : Document) :
    (node.declared d).atEnd path = (d.atEnd path).map target.declared := by
  induction path generalizing node d with
  | nil =>
    cases h
    rfl
  | cons s rest ih =>
    rw [below?_cons] at h
    obtain ⟨child, hchild, htarget⟩ := Option.bind_eq_some_iff.mp h
    rw [Document.atEnd, Document.atEnd, instances_declared, List.flatMap_map, List.map_flatMap]
    refine List.flatMap_congr fun v _ => ?_
    rw [get?_declared hchild]
    cases v.get? s.name with
    | none => rfl
    | some member => exact ih htarget member

theorem values_declared {path : List Segment} (h : node.below? path = some target) (d : Document) :
    (node.declared d).values path = (d.values path).map target.declared := by
  unfold Document.values
  rw [atEnd_declared h, List.flatMap_map, List.map_flatMap]
  exact List.flatMap_congr fun v _ => instances_declared v

/-- Nothing in the value of a value field is undeclared, so vectors stay what they are. -/
theorem vectors_declared {path : List Segment} {f : ValueField}
    (h : node.below? path = some (.value f)) (d : Document) :
    (node.declared d).vectors path = d.vectors path := by
  unfold Document.vectors
  rw [atEnd_declared h]
  exact congrArg (List.flatMap Document.numberLists) (List.map_id _)

end Node

mutual

/-- **Whether there is a value is asked of declared members only.** -/
theorem Node.holdsValue_declared : ∀ (node : Node) {index : String} {path : FieldPath},
    node.check index path = .ok () → ∀ d, node.holdsValue (node.declared d) = node.holdsValue d
  | .value f, _, _, _, d => rfl
  | .object storage multiValued children, index, path, h, d => by
    rw [Node.check] at h
    rw [Node.holdsValue, Node.holdsValue, Node.instances_declared, List.any_map]
    refine congrArg d.instances.any (funext fun v => holdsChild_declared children h ?_)
    intro name node hmem
    have hfind : Fields.find? (Node.object storage multiValued children).children name =
        some node := find?_of_check h hmem
    exact Node.get?_declared hfind v

theorem holdsChild_declared : ∀ (children : List (String × Node)) {index : String}
    {parent : Option FieldPath} {seen : List String},
    checkFields index parent seen children = .ok () → ∀ {v v' : Document},
      (∀ name node, (name, node) ∈ children → v'.get? name = (v.get? name).map node.declared) →
        holdsChild children v' = holdsChild children v
  | [], _, _, _, _, _, _, _ => rfl
  | (name, node) :: rest, index, parent, seen, h, v, v', hget => by
    obtain ⟨s, -, -, hnode, hrest⟩ := checkFields_cons_ok h
    have hfirst := Node.holdsValue_declared node hnode
    rw [holdsChild, holdsChild, hget name node List.mem_cons_self,
      holdsChild_declared rest hrest fun name node hmem =>
        hget name node (List.mem_cons_of_mem _ hmem)]
    cases v.get? name with
    | none => rfl
    | some member => simp only [Option.map_some, hfirst]

end

end NestedSearch
