/-!
# Shortest decimals of binary numbers

A finite nonzero double is `mantissa · 2 ^ exponent`, and the reals that round to
it form an interval around it, whose ends belong to it exactly when the mantissa
is even. Its shortest decimal is taken from the coarsest decimal grid with a
point in that interval: the grid neighbour of the number that is nearer to it,
and of two equally near ones the one with an even last digit.
-/

namespace Scribe.Decimal

/-- The number `digits · 10 ^ exponent`. -/
structure Scientific where
  digits : Nat
  exponent : Int
deriving DecidableEq, Repr

/-- A positive double taken apart: the value is `mantissa · 2 ^ exponent`, and
`lowest` says that the gap below it is half the gap above. -/
structure Binary where
  mantissa : Nat
  exponent : Int
  lowest : Bool
deriving DecidableEq, Repr

/-- Take the bits of a finite double's magnitude apart. -/
def Binary.ofBits (bits : Nat) : Binary :=
  let fraction : Nat := bits % 0x10000000000000
  let field : Nat := bits / 0x10000000000000 % 0x800
  if field = 0 then ⟨fraction, -1074, false⟩
  else ⟨fraction + 0x10000000000000, (field : Int) - 1075, fraction = 0 && field > 1⟩

/-- Quarters of the unit of the mantissa, as a fraction: the value, the lower end
and the upper end of the interval over one common denominator. -/
structure Interval where
  value : Nat
  low : Nat
  high : Nat
  denominator : Nat
  closed : Bool

/-- The interval of reals that round to a number. -/
def Binary.interval (binary : Binary) : Interval :=
  let value := 4 * binary.mantissa
  let low := if binary.lowest then value - 1 else value - 2
  let high := value + 2
  let up := Nat.pow 2 binary.exponent.toNat
  let down := Nat.pow 2 (-binary.exponent).toNat
  ⟨value * up, low * up, high * up, 4 * down, binary.mantissa % 2 = 0⟩

/-- Whether the grid point `digits · 10 ^ exponent` rounds to the number. -/
def Interval.contains (interval : Interval) (digits : Nat) (exponent : Int) : Bool :=
  let scaled := digits * Nat.pow 10 exponent.toNat * interval.denominator
  let unit := Nat.pow 10 (-exponent).toNat
  if interval.closed then
    interval.low * unit ≤ scaled && scaled ≤ interval.high * unit
  else
    interval.low * unit < scaled && scaled < interval.high * unit

/-- Of the two neighbours of the number on the grid of `10 ^ exponent`, the one
that rounds to the number, or the nearer one if both do. -/
def Interval.onGrid (interval : Interval) (exponent : Int) : Option Nat :=
  let numerator := interval.value * Nat.pow 10 (-exponent).toNat
  let denominator := interval.denominator * Nat.pow 10 exponent.toNat
  let below := numerator / denominator
  let rest := numerator % denominator
  match interval.contains below exponent, interval.contains (below + 1) exponent with
  | true, true =>
      if 2 * rest < denominator then some below
      else if denominator < 2 * rest then some (below + 1)
      else if below % 2 = 0 then some below
      else some (below + 1)
  | true, false => some below
  | false, true => some (below + 1)
  | false, false => none

/-- Try grids from coarse to fine. -/
def Interval.search (interval : Interval) : (fuel : Nat) → (exponent : Int) → Scientific
  | 0, exponent => ⟨0, exponent⟩
  | fuel + 1, exponent =>
      match interval.onGrid exponent with
      | some digits => ⟨digits, exponent⟩
      | none => interval.search fuel (exponent - 1)

/-- An exponent of ten that is at least that of the leading digit. -/
def Binary.leading (binary : Binary) : Int :=
  let bits : Int := (binary.mantissa.log2 : Int) + binary.exponent
  if 0 ≤ bits then bits * 30103 / 100000 + 1 else -(-bits * 30102 / 100000) + 1

/-- Drop zeros at the end of the digits. The fuel bounds their number. -/
def Scientific.normalize : (fuel : Nat) → Scientific → Scientific
  | 0, number => number
  | fuel + 1, ⟨digits, exponent⟩ =>
      if digits ≠ 0 ∧ digits % 10 = 0 then normalize fuel ⟨digits / 10, exponent + 1⟩
      else ⟨digits, exponent⟩

/-- The shortest decimal of a positive finite double's bits. -/
def shortest (bits : Nat) : Scientific :=
  let binary := Binary.ofBits bits
  (binary.interval.search 24 binary.leading).normalize 24

end Scribe.Decimal
