import NestedSearch.Decimal.Shortest
import NestedSearch.Json.Basic

/-!
# How decimals are laid out

A layout decides between positional and scientific notation and how a numeral is spelled. The
values below are the three layouts in use: numbers in JSON, parameters shown to a person, and
the components of a vector shown to a person.
-/

namespace NestedSearch

/-- The digit that a character from `0` to `9` writes. -/
def digitOf (c : Char) : Fin 10 := Fin.ofNat 10 (c.toNat - '0'.toNat)

/-- The decimal digits of a number, most significant first; `0` has one digit. -/
def decimalDigits (n : Nat) : List (Fin 10) := (Nat.toDigits 10 n).map digitOf

/-- The number that the digits write. -/
def ofDecimalDigits (ds : List (Fin 10)) : Nat :=
  ds.foldl (fun n d => 10 * n + d.val) 0

/-- The character of a digit. -/
def digitChar (d : Fin 10) : Char := Char.ofNat ('0'.toNat + d.val)

namespace Decimal

/-- The rules that turn a decimal into a numeral. -/
structure Layout where
  /-- Whether a number with this leading exponent is written positionally. -/
  positional : Int → Bool
  /-- Whether a positional numeral without fraction digits gets one zero. -/
  keepsPoint : Bool

/-- Numbers of double precision in JSON: positional from `1e-5` up to `1e16`. -/
def Layout.jsonDouble : Layout := ⟨fun e => -5 ≤ e && e < 16, true⟩

/-- Numbers of single precision in JSON: positional from `1e-6` up to `1e13`. -/
def Layout.jsonSingle : Layout := ⟨fun e => -6 ≤ e && e < 13, true⟩

/-- Numbers shown to a person on their own: always positional, whole numbers without a point. -/
def Layout.plain : Layout := ⟨fun _ => true, false⟩

/-- Numbers shown to a person within a list: positional from `1e-4` up to `1e16`. -/
def Layout.listed : Layout := ⟨fun e => -4 ≤ e && e < 16, true⟩

/-- The decimal exponent of the first digit. -/
def leadingExponent (d : Decimal) : Int :=
  d.exponent + (decimalDigits d.digits).length - 1

/-- Lays a decimal out as a numeral. -/
def Layout.numeral (l : Layout) (negative : Bool) (d : Decimal) : Numeral :=
  let pad (fraction : List (Fin 10)) := if fraction = [] && l.keepsPoint then [0] else fraction
  if d.digits = 0 then ⟨negative, 0, pad [], none⟩
  else if l.positional d.leadingExponent then
    if 0 ≤ d.exponent then ⟨negative, d.digits * Nat.pow 10 d.exponent.toNat, pad [], none⟩
    else
      let places := (-d.exponent).toNat
      let digits := decimalDigits (d.digits % Nat.pow 10 places)
      ⟨negative, d.digits / Nat.pow 10 places,
        pad (List.replicate (places - digits.length) 0 ++ digits), none⟩
  else
    match decimalDigits d.digits with
    | first :: rest => ⟨negative, first.val, rest, some d.leadingExponent⟩
    | [] => ⟨negative, 0, [], some d.leadingExponent⟩

end Decimal

namespace Numeral

/-- Writes a numeral. `explicitPlus` puts a sign before an exponent that is not negative. -/
def render (explicitPlus : Bool) (n : Numeral) : String :=
  let sign := if n.negative then "-" else ""
  let fraction :=
    if n.fraction = [] then "" else "." ++ String.ofList (n.fraction.map digitChar)
  let exponent := match n.exponent with
    | none => ""
    | some e =>
      "e" ++ (if e < 0 then "-" else if explicitPlus then "+" else "") ++ toString e.natAbs
  sign ++ toString n.whole ++ fraction ++ exponent

/-- The numeral of a double-precision number in JSON; there is none for an infinity or for what
    is not a number. -/
def ofFloat? (x : Float) : Option Numeral :=
  match Decimal.ofFloat x with
  | .finite negative d => some (Decimal.Layout.jsonDouble.numeral negative d)
  | _ => none

/-- The numeral of a single-precision number in JSON. -/
def ofFloat32? (x : Float32) : Option Numeral :=
  match Decimal.ofFloat32 x with
  | .finite negative d => some (Decimal.Layout.jsonSingle.numeral negative d)
  | _ => none

end Numeral

/-- A number as it is shown to a person in the given layout. -/
def Decimal.Reading.show (l : Decimal.Layout) : Decimal.Reading → String
  | .finite negative d => (l.numeral negative d).render false
  | .infinite negative => if negative then "-inf" else "inf"
  | .notANumber => "NaN"

end NestedSearch
