/-!
# JSON values

What a JSON text says, before anything is made of it. Members keep their order and their
repetitions, a number keeps its digits, and a string that names no text (an unpaired
surrogate escape) is kept as `none`: whether any of these is acceptable is for the reader of
the value to decide, since a member nobody looks at may hold anything.
-/

namespace NestedSearch

/-- A number as it is written: `-12.50e3` has `whole = 12`, `fraction = [5, 0]` and
    `exponent = some 3`. A numeral without a fraction part has `fraction = []`. -/
structure Numeral where
  negative : Bool
  whole : Nat
  fraction : List (Fin 10)
  exponent : Option Int
deriving DecidableEq, Repr, Inhabited

/-- A JSON value. -/
inductive Json where
  | null
  | bool (value : Bool)
  | num (numeral : Numeral)
  | str (text : Option String)
  | arr (items : List Json)
  | obj (members : List (Option String × Json))
deriving Inhabited

namespace Numeral

/-- The numeral of an integer. -/
def ofInt (value : Int) : Numeral :=
  ⟨value < 0, value.natAbs, [], none⟩

/-- The integer that the numeral writes, when it writes one. `-0` is not an integer: only a
    floating-point number has a negative zero. -/
def toInt? (n : Numeral) : Option Int :=
  match n.fraction, n.exponent with
  | [], none =>
    if n.negative then if n.whole = 0 then none else some (-(n.whole : Int))
    else some n.whole
  | _, _ => none

end Numeral

namespace Json

/-- A JSON string. -/
def ofString (text : String) : Json := .str (some text)

/-- A JSON array of the values. -/
def ofList (items : List Json) : Json := .arr items

/-- A JSON object with the members in this order. -/
def ofMembers (members : List (String × Json)) : Json :=
  .obj (members.map fun m => (some m.1, m.2))

/-- A JSON integer. -/
def ofInt (value : Int) : Json := .num (.ofInt value)

/-- A JSON string, or `null` when there is none. -/
def ofOption {α : Type} (f : α → Json) : Option α → Json
  | none => .null
  | some a => f a

mutual

/-- How deeply arrays and objects are nested in a value: `0` for a scalar. -/
def nesting : Json → Nat
  | .arr items => nestingItems items + 1
  | .obj members => nestingMembers members + 1
  | _ => 0

def nestingItems : List Json → Nat
  | [] => 0
  | j :: js => max j.nesting (nestingItems js)

def nestingMembers : List (Option String × Json) → Nat
  | [] => 0
  | (_, j) :: ms => max j.nesting (nestingMembers ms)

end

/-- The members of an object whose names are all texts. -/
def members? : Json → Option (List (String × Json))
  | .obj members => members.mapM fun m => m.1.map (·, m.2)
  | _ => none

/-- The text of a string. -/
def text? : Json → Option String
  | .str text => text
  | _ => none

/-- The items of an array. -/
def items? : Json → Option (List Json)
  | .arr items => some items
  | _ => none

/-- The value of `true` or `false`. -/
def bool? : Json → Option Bool
  | .bool b => some b
  | _ => none

end Json

end NestedSearch
