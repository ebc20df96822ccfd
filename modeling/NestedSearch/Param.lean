import NestedSearch.Json.Decode
import NestedSearch.NameMap
import NestedSearch.Decimal.Layout

/-!
# Parameters

The values that predicates carry, and the parameters that a named predicate is invoked with.
Parameters are kept in the order of their names.
-/

namespace NestedSearch

open Json (Origin)

/-- A value in a predicate. Integers have 64 bits. -/
inductive ParamValue where
  | string (text : String)
  | int (value : Int)
  | float (value : Float)
  | bool (value : Bool)
  | vector (components : List Float32)
  | null

namespace ParamValue

/-- The name of the value's type. -/
def typeName : ParamValue → String
  | .string _ => "string"
  | .int _ => "int"
  | .float _ => "float"
  | .bool _ => "bool"
  | .vector _ => "vector"
  | .null => "null"

def string? : ParamValue → Option String
  | .string s => some s
  | _ => none

def int? : ParamValue → Option Int
  | .int i => some i
  | _ => none

/-- A number as a double. -/
def float? : ParamValue → Option Float
  | .int i => some (Number.floatOfInt i)
  | .float x => some x
  | _ => none

def bool? : ParamValue → Option Bool
  | .bool b => some b
  | _ => none

def vector? : ParamValue → Option (List Float32)
  | .vector v => some v
  | _ => none

def isNull : ParamValue → Bool
  | .null => true
  | _ => false

/-- The value as it is shown to a person, and as it stands in for query text. -/
def describe : ParamValue → String
  | .string s => s
  | .int i => toString i
  | .float x => (Decimal.ofFloat x).show .plain
  | .bool b => if b then "true" else "false"
  | .vector v =>
    "[" ++ ", ".intercalate (v.map fun x => (Decimal.ofFloat32 x).show .listed) ++ "]"
  | .null => "null"

def ofJson? (origin : Origin) (j : Json) : Option ParamValue := do
  let (name, content) ← j.alternative?
  match name with
  | "string" => do return .string (← (← content).text?)
  | "int" => do return .int (← (← content).int64?)
  | "float" => do return .float (← (← content).float?)
  | "bool" => do return .bool (← (← content).bool?)
  | "vector" => do return .vector (← (← content).list? Json.float32?)
  | "null" => if Json.isNoContent origin content then some .null else none
  | _ => none

/-- A double in JSON; `null` where there is no numeral for it. -/
def floatToJson (x : Float) : Json := .ofOption .num (Numeral.ofFloat? x)

/-- A single-precision number in JSON; `null` where there is no numeral for it. -/
def float32ToJson (x : Float32) : Json := .ofOption .num (Numeral.ofFloat32? x)

def toJson : ParamValue → Json
  | .string s => .ofMembers [("string", .ofString s)]
  | .int i => .ofMembers [("int", .ofInt i)]
  | .float x => .ofMembers [("float", floatToJson x)]
  | .bool b => .ofMembers [("bool", .bool b)]
  | .vector v => .ofMembers [("vector", .arr (v.map float32ToJson))]
  | .null => .ofString "null"

end ParamValue

/-- Parameters by name, each name at most once. -/
abbrev ParamBag := NameMap ParamValue

namespace ParamBag

/-- Binds a name that is not bound yet. -/
def bind? (bag : ParamBag) (name : String) (value : ParamValue) : Option ParamBag :=
  if bag.contains name then none else some (bag.insert name value)

/-- Decodes a map of parameters. Of two members with one name the later one counts. -/
def ofJson? (j : Json) : Option ParamBag := do
  let entries ← (← j.members?).mapM fun (name, value) => do
    return (name, ← ParamValue.ofJson? .text value)
  return NameMap.ofList entries

def toJson (bag : ParamBag) : Json :=
  .ofMembers (bag.entries.map fun e => (e.1, e.2.toJson))

end ParamBag

end NestedSearch
