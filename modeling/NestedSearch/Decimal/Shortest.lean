import NestedSearch.Decimal.Binary

/-!
# The shortest decimal that reads back

Of all decimals that are read back as a given floating-point number, the one with the fewest
digits is chosen, and of those the one nearest to the number. On the grid of the multiples of
a power of ten only the two neighbours of the number can be the nearest point, so the search
looks at these two on one grid after the other, from coarse to fine.
-/

namespace NestedSearch

/-- The number `digits · 10 ^ exponent`. -/
structure Decimal where
  digits : Nat
  exponent : Int
deriving DecidableEq, Repr, Inhabited

namespace Decimal

namespace Binary.Interval

/-- Whether `num / den` is read back as the number. -/
def contains (i : Interval) (num den : Nat) : Bool :=
  if i.closed then
    i.low * den ≤ num * i.denominator && num * i.denominator ≤ i.high * den
  else
    i.low * den < num * i.denominator && num * i.denominator < i.high * den

/-- The power of ten of the number's first digit: its decimal exponent in scientific notation.
    Multiplying by a large power of ten first makes the number whole. -/
def leadingExponent (i : Interval) : Int :=
  ((Nat.toDigits 10 (i.value * Nat.pow 10 400 / i.denominator)).length : Int) - 401

/-- The point of the grid of multiples of `10 ^ grid` that is read back as the number and lies
    nearest to it, if there is one. -/
def gridPoint? (i : Interval) (grid : Int) : Option Nat :=
  let up := Nat.pow 10 grid.toNat
  let down := Nat.pow 10 (-grid).toNat
  let below := i.value * down / (i.denominator * up)
  let hitBelow := i.contains (below * up) down
  let hitAbove := i.contains ((below + 1) * up) down
  -- twice the distance to the lower neighbour, in units of the grid, against one
  let excess := 2 * (i.value * down - below * (i.denominator * up))
  let unit := i.denominator * up
  if hitBelow && hitAbove then
    if excess < unit || (excess = unit && below % 2 = 0) then some below else some (below + 1)
  else if hitBelow then some below
  else if hitAbove then some (below + 1)
  else none

/-- Tries the grids from `grid` downward, at most `fuel` of them. -/
def search (i : Interval) (grid : Int) : Nat → Decimal
  | 0 => ⟨i.value * Nat.pow 10 (-grid).toNat / (i.denominator * Nat.pow 10 grid.toNat), grid⟩
  | fuel + 1 =>
    match i.gridPoint? grid with
    | some point => ⟨point, grid⟩
    | none => i.search (grid - 1) fuel

end Binary.Interval

/-- Moves trailing zeros of the digits into the exponent; a number has at most as many as
    `fuel`. -/
def dropZeros (d : Decimal) : Nat → Decimal
  | 0 => d
  | fuel + 1 =>
    if d.digits % 10 = 0 && d.digits ≠ 0 then dropZeros ⟨d.digits / 10, d.exponent + 1⟩ fuel
    else d

/-- The shortest decimal that is read back as the number. Seventeen digits always suffice. -/
def Binary.shortest (b : Binary) : Decimal :=
  let i := b.interval
  (i.search i.leadingExponent 20).dropZeros 20

/-- What a floating-point number of either width is, in decimal. -/
inductive Reading where
  | finite (negative : Bool) (value : Decimal)
  | infinite (negative : Bool)
  | notANumber
deriving DecidableEq, Repr

/-- Reads the bits of a number of the given width. -/
def Width.reading (w : Width) (bits : Nat) : Reading :=
  let negative := w.isNegative bits
  match w.magnitude bits with
  | .zero => .finite negative ⟨0, 0⟩
  | .finite b => .finite negative b.shortest
  | .infinite => .infinite negative
  | .notANumber => .notANumber

/-- The shortest decimal of a double-precision number. -/
def ofFloat (x : Float) : Reading := Width.double.reading x.toBits.toNat

/-- The shortest decimal of a single-precision number. -/
def ofFloat32 (x : Float32) : Reading := Width.single.reading x.toBits.toNat

end Decimal

end NestedSearch
