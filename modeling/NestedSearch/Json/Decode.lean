import NestedSearch.Json.Number
import NestedSearch.FieldPath

/-!
# Decoding

How records, alternatives and tagged alternatives are laid out in JSON.

A *record* is an object, whose unknown members are ignored, or an array of the fields in their
order. An *alternative* is the name of a case, or an object with the name as its only member
and the content of the case as that member's value. A *tagged* alternative is an object with the
name of the case as one of its members, or an array with the name as its first item.

What a tagged alternative holds has been read as a whole before it is taken apart, unknown
members included. Its parts are then decoded from that copy, and a copy is a little more lenient
than the text: an empty object does for the content of a case without content, and a case may be
given by its number.
-/

namespace NestedSearch.Json

/-- Where a decoder takes a value from. -/
inductive Origin where
  /-- Straight from the text. -/
  | text
  /-- From a value that was read as a whole. -/
  | copy
deriving DecidableEq, Repr

/-! ## Records -/

/-- The fields of a record that are present, by name. -/
structure Record where
  fields : List (String × Json)
  /-- Whether the record is written as an array; then only a field with a default may be
      missing. -/
  positional : Bool

namespace Record

/-- Takes a record of the named fields apart. No field may be given twice. -/
def ofJson? (names : List String) : Json → Option Record
  | .obj members => do
    let members ← (Json.obj members).members?
    let known := members.filter fun m => names.contains m.1
    guard (decide (known.map (·.1)).Nodup)
    return ⟨known, false⟩
  | .arr items => if items.length ≤ names.length then some ⟨names.zip items, true⟩ else none
  | _ => none

/-- The value of a field. -/
def get? (r : Record) (name : String) : Option Json := r.fields.lookup name

/-- A field that must be present. -/
def required? {α : Type} (r : Record) (name : String) (decode : Json → Option α) : Option α :=
  r.get? name >>= decode

/-- A field that may be missing, and then has this value. -/
def defaulted? {α : Type} (r : Record) (name : String) (default : α)
    (decode : Json → Option α) : Option α :=
  match r.get? name with
  | none => some default
  | some j => decode j

/-- A value or `null`. -/
def orNull? {α : Type} (decode : Json → Option α) : Json → Option (Option α)
  | .null => some none
  | j => (decode j).map some

/-- A field that may be missing from an object, or be `null`. -/
def optional? {α : Type} (r : Record) (name : String) (decode : Json → Option α) :
    Option (Option α) :=
  match r.get? name with
  | none => if r.positional then none else some none
  | some j => orNull? decode j

end Record

/-- Takes the members of an object apart into the named ones, a record, and the others, which are
    read as a whole. -/
def flattened? (names : List String) (j : Json) : Option (Record × Json) := do
  let members ← j.members?
  let (known, others) := members.partition fun m => names.contains m.1
  guard (decide (known.map (·.1)).Nodup)
  let others := Json.ofMembers others
  guard others.isSound
  return (⟨known, false⟩, others)

/-! ## Alternatives -/

/-- The name of a case, and its content if there is any. -/
def alternative? : Json → Option (String × Option Json)
  | .str (some name) => some (name, none)
  | .obj [(some name, content)] => some (name, some content)
  | _ => none

/-- Whether this may stand for the content of a case that has none. -/
def isNoContent (origin : Origin) : Option Json → Bool
  | none => true
  | some .null => true
  | some (.obj []) => origin = .copy
  | some _ => false

/-- A value from a table of named cases without content. -/
def oneOf? {α : Type} (table : List (String × α)) (origin : Origin) (j : Json) : Option α := do
  let (name, content) ← j.alternative?
  guard (isNoContent origin content)
  table.lookup name

/-- A tagged alternative with one of the named cases: the name, and the remaining members or
    items. -/
def tagged? (tag : String) (cases : List String) (origin : Origin) (j : Json) :
    Option (String × Json) := do
  let (name, content) ← match j with
    | .obj _ => do
      let members ← j.members?
      let (tags, others) := members.partition fun m => m.1 = tag
      match tags with
      | [(_, name)] => some (name, Json.ofMembers others)
      | _ => none
    | .arr (name :: items) => some (name, .arr items)
    | _ => none
  guard (origin = .copy || content.isSound)
  let name ← match name, origin with
    | .str text, _ => text
    | .num _, .copy => do
      let n ← name.nat64?
      cases[n]?
    | _, _ => none
  guard (cases.contains name)
  return (name, content)

/-- Whether this may stand for what remains of a tagged case without content. -/
def isNoRest : Json → Bool
  | .obj _ => true
  | .arr items => items.isEmpty
  | _ => false

/-! ## Lists, maps and paths -/

/-- An array of values. -/
def list? {α : Type} (decode : Json → Option α) (j : Json) : Option (List α) := do
  (← j.items?).mapM decode

/-- A dotted field path. -/
def path? (j : Json) : Option FieldPath := j.text?.bind FieldPath.parse?

/-- A field path as its dotted form. -/
def ofPath (p : FieldPath) : Json := .ofString p.toString

end NestedSearch.Json
