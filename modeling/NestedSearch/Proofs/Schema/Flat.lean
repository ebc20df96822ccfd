import NestedSearch.Corpus.Evaluation
import NestedSearch.Proofs.Resolution
import NestedSearch.Proofs.Schema.Validity

/-!
# Schemas without nested objects

Storing all objects as parts of their documents changes how they are reached and nothing else. The
flat schema has the same paths and the same value fields, every usage but the nested scope is
supported as before, and no path needs a scope (`chainTo_flat`).
-/

namespace NestedSearch

mutual

/-- The node with all objects stored as parts of their documents. -/
def Node.flat : Node → Node
  | .value f => .value f
  | .object _ multiValued children => .object .flattened multiValued (flatFields children)

def flatFields : List (String × Node) → List (String × Node)
  | [] => []
  | (name, node) :: rest => (name, node.flat) :: flatFields rest

end

/-! ## Nodes -/

namespace Node

@[simp] theorem isNested_flat (node : Node) : node.flat.isNested = false := by
  cases node <;> rfl

@[simp] theorem value?_flat (node : Node) : node.flat.value? = node.value? := by
  cases node <;> rfl

@[simp] theorem metric?_flat (node : Node) : node.flat.metric? = node.metric? := by
  cases node <;> rfl

theorem children_flat (node : Node) : node.flat.children = flatFields node.children := by
  cases node with
  | value f => rfl
  | object storage multiValued children => rfl

/-- Only a nested scope asks how an object is stored. -/
theorem supports_flat {node : Node} {usage : Usage} (h : usage ≠ .nested) :
    node.flat.supports usage = node.supports usage := by
  cases node with
  | value f => rfl
  | object storage multiValued children => cases usage <;> first | rfl | exact absurd rfl h

end Node

mutual

/-- The check does not ask how an object is stored. -/
theorem Node.check_flat (index : String) (path : FieldPath) :
    ∀ node : Node, node.flat.check index path = node.check index path
  | .value f => rfl
  | .object storage multiValued children => by
    rw [Node.flat, Node.check, Node.check, checkFields_flat]

theorem checkFields_flat (index : String) (parent : Option FieldPath) (seen : List String) :
    ∀ fields : Fields,
      checkFields index parent seen (flatFields fields) = checkFields index parent seen fields
  | [] => rfl
  | (name, node) :: rest => by
    rw [flatFields, checkFields, checkFields]
    cases Segment.ofName name with
    | error cause => rfl
    | ok s => simp only [Node.check_flat index _ node, checkFields_flat index parent _ rest]

end

mutual

theorem Node.holdsValue_flat (d : Document) :
    ∀ node : Node, node.flat.holdsValue d = node.holdsValue d
  | .value f => rfl
  | .object storage multiValued children => by
    rw [Node.flat, Node.holdsValue, Node.holdsValue]
    exact congrArg d.instances.any (funext fun v => holdsChild_flat v children)

theorem holdsChild_flat (d : Document) :
    ∀ fields : Fields, holdsChild (flatFields fields) d = holdsChild fields d
  | [] => rfl
  | (name, node) :: rest => by
    rw [flatFields, holdsChild, holdsChild, holdsChild_flat d rest]
    cases d.get? name with
    | none => rfl
    | some v => simp only [Node.holdsValue_flat v node]

end

/-! ## Paths -/

theorem find?_flatFields (fields : Fields) (name : String) :
    Fields.find? (flatFields fields) name = (fields.find? name).map Node.flat := by
  unfold Fields.find?
  induction fields with
  | nil => rfl
  | cons field rest ih =>
    rw [flatFields, List.lookup_cons, List.lookup_cons, ih]
    cases name == field.1 <;> rfl

theorem nodeAt?_flatFields (fields : Fields) (s : Segment) (rest : List Segment) :
    Fields.nodeAt? (flatFields fields) s rest = (fields.nodeAt? s rest).map Node.flat := by
  induction rest generalizing fields s with
  | nil => exact find?_flatFields fields s.name
  | cons next rest ih =>
    rw [Fields.nodeAt?_cons, Fields.nodeAt?_cons, find?_flatFields]
    cases fields.find? s.name with
    | none => rfl
    | some node =>
      rw [Option.map_some, Option.bind_some, Option.bind_some, Node.children_flat]
      exact ih node.children next

/-! ## Schemas -/

/-- The definition with all objects stored as parts of their documents. -/
def Definition.flat (d : Definition) : Definition := ⟨d.index, flatFields d.fields⟩

theorem Definition.check_flat (d : Definition) : d.flat.check = d.check := by
  unfold check
  rw [flat, checkFields_flat]

theorem Definition.node?_flat (d : Definition) (p : FieldPath) :
    d.flat.node? p = (d.node? p).map Node.flat :=
  nodeAt?_flatFields d.fields p.head p.tail

/-- **Where all objects are flat, no path needs a scope.** -/
theorem Definition.chainTo_flat (d : Definition) (p : FieldPath) : d.flat.chainTo p = .empty := by
  unfold chainTo Fields.scopesTo NestingChain.empty
  have hnone : ∀ q : FieldPath,
      (d.flat.fields.nodeAt? q.head q.tail).any Node.isNested = false := by
    intro q
    rw [flat, nodeAt?_flatFields]
    cases d.fields.nodeAt? q.head q.tail <;> simp
  simp [hnone]

/-- The schema with all objects stored as parts of their documents. -/
def Schema.flat (d : Schema) : Schema := ⟨d.toDefinition.flat, d.check_flat.trans d.valid⟩

theorem Schema.node?_flat (d : Schema) (p : FieldPath) :
    d.flat.node? p = (d.node? p).map Node.flat :=
  d.toDefinition.node?_flat p

theorem Schema.node?_flat_of_node? {d : Schema} {p : FieldPath} {node : Node}
    (h : d.node? p = some node) : d.flat.node? p = some node.flat := by
  rw [node?_flat, h, Option.map_some]

end NestedSearch
