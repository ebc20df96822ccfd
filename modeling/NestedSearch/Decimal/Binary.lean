/-!
# Binary floating-point numbers as integers

A finite floating-point number is `significand · 2 ^ exponent`. This file takes the two
widths apart into that form, and says which real numbers are read back as a given one: those
between the midpoints to its neighbours, the midpoints themselves when the significand is
even.
-/

namespace NestedSearch.Decimal

/-- The layout of a binary format: how many bits hold the fraction and how many the exponent. -/
structure Width where
  fractionBits : Nat
  exponentBits : Nat

/-- Double precision. -/
def Width.double : Width := ⟨52, 11⟩

/-- Single precision. -/
def Width.single : Width := ⟨23, 8⟩

/-- A positive number `significand · 2 ^ exponent`. `narrowBelow` says that the gap to the next
    smaller number of the format is half the gap to the next larger one. -/
structure Binary where
  significand : Nat
  exponent : Int
  narrowBelow : Bool
deriving DecidableEq, Repr

/-- What the bits of a floating-point number, its sign apart, stand for. -/
inductive Magnitude where
  | zero
  | finite (value : Binary)
  | infinite
  | notANumber
deriving DecidableEq, Repr

/-- Takes the bits of a number of the given width apart. -/
def Width.magnitude (w : Width) (bits : Nat) : Magnitude :=
  let fraction := bits % Nat.pow 2 w.fractionBits
  let field := bits / Nat.pow 2 w.fractionBits % Nat.pow 2 w.exponentBits
  let least : Int := 2 - Nat.pow 2 (w.exponentBits - 1) - w.fractionBits
  if field = Nat.pow 2 w.exponentBits - 1 then
    if fraction = 0 then .infinite else .notANumber
  else if field = 0 then
    if fraction = 0 then .zero else .finite ⟨fraction, least, false⟩
  else
    .finite ⟨Nat.pow 2 w.fractionBits + fraction, least + (field - 1), fraction = 0 && field ≠ 1⟩

/-- Whether the sign bit is set. -/
def Width.isNegative (w : Width) (bits : Nat) : Bool :=
  bits / Nat.pow 2 (w.fractionBits + w.exponentBits) % 2 = 1

namespace Binary

/-- The number in quarters of its own gap, as a fraction `quarters / denominator`: the ends of
    the interval that reads back as it then are whole too. -/
structure Interval where
  low : Nat
  value : Nat
  high : Nat
  denominator : Nat
  closed : Bool
deriving Repr

/-- The interval of the reals that are read back as the number. -/
def interval (b : Binary) : Interval :=
  let scale := Nat.pow 2 (b.exponent - 2).toNat
  { low := (4 * b.significand - if b.narrowBelow then 1 else 2) * scale
    value := 4 * b.significand * scale
    high := (4 * b.significand + 2) * scale
    denominator := Nat.pow 2 (2 - b.exponent).toNat
    closed := b.significand % 2 = 0 }

end Binary

end NestedSearch.Decimal
