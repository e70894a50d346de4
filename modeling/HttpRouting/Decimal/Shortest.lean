/-!
# Shortest decimals

Among the decimals that read back as a given binary fraction, `shortest`
selects one with the fewest digits and, of those, the nearest.  A decimal
grid with a point in the interval of numbers that round to the fraction has
one next to the fraction itself, so two neighbours are tested on each grid.
All comparisons are between natural numbers.
-/

namespace HttpRouting

structure Decimal where
  digits : Nat
  exponent : Int
deriving DecidableEq, Repr

namespace Decimal

/-- The numbers that round to `value`, as numerators over one denominator. -/
structure Rounding where
  low : Nat
  value : Nat
  high : Nat
  denominator : Nat
  closed : Bool

namespace Rounding

/-- The numbers that round to `mantissa · 2 ^ exponent`; the step below a power of two is half as wide. -/
def ofBinary (mantissa : Nat) (exponent : Int) (narrowBelow : Bool) : Rounding :=
  let scale := Nat.pow 2 (exponent - 2).toNat
  { low := (4 * mantissa - if narrowBelow then 1 else 2) * scale
    value := 4 * mantissa * scale
    high := (4 * mantissa + 2) * scale
    denominator := Nat.pow 2 (2 - exponent).toNat
    closed := mantissa % 2 == 0 }

def magnitude (r : Rounding) : Int :=
  if r.denominator ≤ r.value then (Nat.toDigits 10 (r.value / r.denominator)).length
  else 1 - (Nat.toDigits 10 (r.denominator / r.value)).length

def inUnits (r : Rounding) (exponent : Int) : Rounding :=
  let scale := Nat.pow 10 (-exponent).toNat
  { r with
    low := r.low * scale
    value := r.value * scale
    high := r.high * scale
    denominator := r.denominator * Nat.pow 10 exponent.toNat }

def admits (r : Rounding) (units : Nat) : Bool :=
  let point := units * r.denominator
  if r.closed then r.low ≤ point && point ≤ r.high else r.low < point && point < r.high

def nearest? (r : Rounding) : Option Nat :=
  let below := r.value / r.denominator
  let twice := 2 * (r.value % r.denominator)
  let first := twice < r.denominator || twice == r.denominator && below % 2 == 0
  let candidates := if first then [below, below + 1] else [below + 1, below]
  candidates.find? r.admits

def onGrid? (r : Rounding) (count : Nat) : Option Decimal :=
  let exponent := r.magnitude - count
  (r.inUnits exponent).nearest?.map fun units => ⟨units, exponent⟩

end Rounding

/-- Seventeen digits always suffice for a fraction with a mantissa of 53 bits. -/
def shortest (r : Rounding) : Decimal :=
  ((List.range 17).findSome? fun n => r.onGrid? (n + 1)).getD ⟨0, 0⟩

end Decimal

end HttpRouting
