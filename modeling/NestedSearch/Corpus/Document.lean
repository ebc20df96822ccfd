import NestedSearch.FieldPath
import NestedSearch.Json.Number
import NestedSearch.Decimal.Layout
import NestedSearch.NameMap

/-!
# Documents and corpora

What an index holds. Below a path, lists are looked through: a path leads to a value in each item
of a list on the way, and a list at its end stands for its items. Only where vectors are looked
for does a list of numbers stand for itself.
-/

namespace NestedSearch

/-- A document, or a part of one. -/
inductive Document where
  | null
  | bool (value : Bool)
  | number (value : Number)
  | text (value : String)
  | list (items : List Document)
  | object (members : List (String × Document))

/-- Leaves out each entry whose name occurs again further on. -/
def keepLast {α : Type} : List (String × α) → List (String × α)
  | [] => []
  | e :: es => if es.any fun d => d.1 = e.1 then keepLast es else e :: keepLast es

namespace Document

mutual

/-- The document that a JSON value is. Of two members with one name the later one counts. -/
def ofJson? : Json → Option Document
  | .null => some .null
  | .bool b => some (.bool b)
  | .num n => n.value?.map .number
  | .str s => s.map .text
  | .arr items => (itemsOfJson? items).map .list
  | .obj members => (membersOfJson? members).map fun ms => .object (keepLast ms)

def itemsOfJson? : List Json → Option (List Document)
  | [] => some []
  | j :: js => do
    let d ← ofJson? j
    let ds ← itemsOfJson? js
    return d :: ds

def membersOfJson? : List (Option String × Json) → Option (List (String × Document))
  | [] => some []
  | (name, j) :: ms => do
    let name ← name
    let d ← ofJson? j
    let ds ← membersOfJson? ms
    return (name, d) :: ds

end

/-- A number in JSON; `null` where there is no numeral for it. -/
def numberToJson : Number → Json
  | .int i => .ofInt i
  | .float x => .ofOption .num (Numeral.ofFloat? x)

mutual

def toJson : Document → Json
  | .null => .null
  | .bool b => .bool b
  | .number n => numberToJson n
  | .text s => .ofString s
  | .list items => .arr (itemsToJson items)
  | .object members => .obj (membersToJson members)

def itemsToJson : List Document → List Json
  | [] => []
  | d :: ds => d.toJson :: itemsToJson ds

def membersToJson : List (String × Document) → List (Option String × Json)
  | [] => []
  | (name, d) :: ms => (some name, d.toJson) :: membersToJson ms

end

/-! ## Following paths -/

/-- The value of a member of an object. -/
def get? (d : Document) (name : String) : Option Document :=
  match d with
  | .object members => members.lookup name
  | _ => none

def isObject : Document → Bool
  | .object _ => true
  | _ => false

def isNull : Document → Bool
  | .null => true
  | _ => false

mutual

/-- A value, or the values in a list, to any depth. -/
def instances : Document → List Document
  | .list items => instancesOf items
  | d => [d]

def instancesOf : List Document → List Document
  | [] => []
  | d :: ds => d.instances ++ instancesOf ds

end

/-- What stands at the end of a path, lists on the way looked through. -/
def atEnd (d : Document) : List Segment → List Document
  | [] => [d]
  | s :: rest => d.instances.flatMap fun v =>
    match v.get? s.name with
    | some child => child.atEnd rest
    | none => []

/-- The values at the end of a path. -/
def values (d : Document) (path : List Segment) : List Document :=
  (d.atEnd path).flatMap instances

/-! ## Reading values -/

/-- The text of a value: a number, or `true` or `false`, has the text that writes it in JSON. -/
def text? : Document → Option String
  | .text s => some s
  | .number n =>
    match n with
    | .int i => some ((Numeral.ofInt i).render true)
    | .float x => (Numeral.ofFloat? x).map (Numeral.render true)
  | .bool b => some (if b then "true" else "false")
  | _ => none

/-- A number as a double. -/
def float? : Document → Option Float
  | .number n => some n.toFloat
  | _ => none

def bool? : Document → Option Bool
  | .bool b => some b
  | _ => none

/-- The components of a list of numbers, in single precision. -/
def vector? (items : List Document) : Option (List Float32) :=
  items.mapM fun d => d.float?.map Number.single

mutual

/-- The lists of numbers in a value. -/
def numberLists : Document → List (List Float32)
  | .list items =>
    match vector? items with
    | some v => [v]
    | none => numberListsOf items
  | _ => []

def numberListsOf : List Document → List (List Float32)
  | [] => []
  | d :: ds => d.numberLists ++ numberListsOf ds

end

/-- The vectors at the end of a path. -/
def vectors (d : Document) (path : List Segment) : List (List Float32) :=
  (d.atEnd path).flatMap numberLists

end Document

/-! ## Corpora

The documents of some indexes, by the name of the index and by the identifier of the document.
-/

/-- Documents by index and identifier. -/
structure Corpus where
  indexes : NameMap (NameMap Document)

/-- Names a document of a corpus. -/
structure Hit where
  index : String
  id : String
deriving DecidableEq, Repr

namespace Corpus

/-- No documents. -/
def empty : Corpus := ⟨.empty⟩

/-- The documents of an index. -/
def documents (c : Corpus) (index : String) : NameMap Document :=
  (c.indexes.get? index).getD .empty

/-- The document of this name. -/
def get? (c : Corpus) (hit : Hit) : Option Document := (c.documents hit.index).get? hit.id

/-- Puts a document under a name, whatever was there before. -/
def insert (c : Corpus) (hit : Hit) (d : Document) : Corpus :=
  ⟨c.indexes.insert hit.index ((c.documents hit.index).insert hit.id d)⟩

/-- How many documents there are. -/
def size (c : Corpus) : Nat := c.indexes.entries.foldl (fun n e => n + e.2.size) 0

end Corpus

end NestedSearch
