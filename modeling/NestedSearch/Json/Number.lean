import NestedSearch.Json.Basic

/-!
# The value of a numeral

Integers that fit in 64 bits, signed or unsigned, are kept exactly. Every other numeral is a
double-precision number: its digits, as many as fit in an unsigned 64-bit significand, rounded
to a double and then multiplied or divided by one power of ten. A numeral whose value is beyond
the doubles has no value at all.
-/

namespace NestedSearch

/-- The value of a numeral. -/
inductive Number where
  | int (value : Int)
  | float (value : Float)

namespace Numeral

/-- The largest significand: 64 bits. -/
def maxSignificand : Nat := Nat.pow 2 64 - 1

/-- The longest run of leading digits of `n` that fits in the significand, and how many digits
    were left out. -/
def trim (n : Nat) : Nat × Nat :=
  if n ≤ maxSignificand then (n, 0)
  else
    let (kept, dropped) := trim (n / 10)
    (kept, dropped + 1)
termination_by n
decreasing_by exact Nat.div_lt_self (by omega) (by omega)

/-- Appends fraction digits to the significand for as long as it stays within its bound; the
    second result counts the digits taken. -/
def appendDigits (significand : Nat) : List (Fin 10) → Nat × Nat
  | [] => (significand, 0)
  | d :: ds =>
    let next := significand * 10 + d.val
    if next ≤ maxSignificand then
      let (result, taken) := appendDigits next ds
      (result, taken + 1)
    else (significand, 0)

/-- The power of ten, as a double. -/
def powerOfTen (exponent : Nat) : Float := Float.ofScientific 1 false exponent

/-- Divides by `10 ^ exponent`, in steps that each stay within the range of the doubles. -/
def divideByPower (x : Float) (exponent : Nat) : Float :=
  if exponent ≤ 308 then x / powerOfTen exponent
  else if x == 0 then x
  else divideByPower (x / powerOfTen 308) (exponent - 308)
termination_by exponent

/-- `significand · 10 ^ exponent` as a double, unless it is beyond the doubles. -/
def scale? (significand : Nat) (exponent : Int) : Option Float :=
  let x := significand.toUInt64.toFloat
  if exponent < 0 then some (divideByPower x (-exponent).toNat)
  else if exponent ≤ 308 then
    let scaled := x * powerOfTen exponent.toNat
    if scaled.isInf then none else some scaled
  else if significand = 0 then some x
  else none

/-- The largest magnitude of a written exponent that is looked at. A larger one makes the number
    zero, or leaves it without a value. -/
def maxExponent : Nat := Nat.pow 2 31 - 1

/-- The value of the numeral as a double, its sign apart. -/
def magnitude? (n : Numeral) : Option Float :=
  let (kept, dropped) := trim n.whole
  let (significand, taken) := appendDigits kept n.fraction
  let written := n.exponent.getD 0
  if maxExponent < written.natAbs then
    if significand = 0 || written < 0 then some 0 else none
  else scale? significand (dropped - taken + written)

/-- The value of the numeral, unless it is beyond the doubles. -/
def value? (n : Numeral) : Option Number :=
  let float := n.magnitude?.map fun x => Number.float (if n.negative then -x else x)
  match n.toInt? with
  | some i => if -(Nat.pow 2 63) ≤ i && i < Nat.pow 2 64 then some (.int i) else float
  | none => float

end Numeral

namespace Number

/-- An integer as a double, rounded to nearest. -/
def floatOfInt (i : Int) : Float :=
  if i < 0 then -i.natAbs.toUInt64.toFloat else i.natAbs.toUInt64.toFloat

/-- The number as a double. -/
def toFloat : Number → Float
  | .int i => floatOfInt i
  | .float x => x

open Float.Model in
/-- A double in single precision, rounded to nearest. -/
def single (x : Float) : Float32 :=
  .ofModel <| .pack <| match x.toModel.unpack with
    | .finite sign mantissa exponent _ => UnpackedFloat.round .binary32 sign mantissa exponent
    | other => other

/-- The number in single precision. Integers are rounded once, not by way of the doubles. -/
def toFloat32 : Number → Float32
  | .int i => if i < 0 then -i.natAbs.toUInt64.toFloat32 else i.natAbs.toUInt64.toFloat32
  | .float x => single x

end Number

namespace Json

/-- The value of a number. -/
def number? : Json → Option Number
  | .num n => n.value?
  | _ => none

/-- The value of a number as a double. -/
def float? (j : Json) : Option Float := j.number?.map Number.toFloat

/-- The value of a number in single precision. -/
def float32? (j : Json) : Option Float32 := j.number?.map Number.toFloat32

/-- An integer from `least` to `greatest`. -/
def intBetween? (least greatest : Int) (j : Json) : Option Int :=
  match j.number? with
  | some (.int i) => if least ≤ i && i ≤ greatest then some i else none
  | _ => none

/-- A signed 64-bit integer. -/
def int64? : Json → Option Int := intBetween? (-(Nat.pow 2 63)) (Nat.pow 2 63 - 1)

/-- A natural number below `2 ^ 32`. -/
def nat32? (j : Json) : Option Nat := (intBetween? 0 (Nat.pow 2 32 - 1) j).map Int.toNat

/-- A natural number below `2 ^ 64`. -/
def nat64? (j : Json) : Option Nat := (intBetween? 0 (Nat.pow 2 64 - 1) j).map Int.toNat

mutual

/-- Whether every string of the value is a text and every numeral has a value. -/
def isSound : Json → Bool
  | .num n => n.value?.isSome
  | .str text => text.isSome
  | .arr items => soundItems items
  | .obj members => soundMembers members
  | _ => true

def soundItems : List Json → Bool
  | [] => true
  | j :: js => j.isSound && soundItems js

def soundMembers : List (Option String × Json) → Bool
  | [] => true
  | (name, j) :: ms => name.isSome && j.isSound && soundMembers ms

end

end Json

end NestedSearch
