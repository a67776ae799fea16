import ServiceWriter.Number.Binary64

/-!
# Shortest decimals

The decimal form of a binary number has the fewest digits that read back as the number, and among
those the ones nearest to it.

A positive number `m · 2 ^ q` is put over a common denominator together with the two ends of the
interval of reals that round to it. For one digit, two digits, and so on, the two neighbours of the
number on that decimal grid are tested against the interval, in whole numbers. The first grid with a
neighbour inside wins.
-/

set_option autoImplicit false

namespace ServiceWriter

/-- The reals that round to one positive binary number: `low / den` to `high / den` around
`value / den`, the ends belonging to it when `closed`. -/
structure RoundingInterval where
  low : Nat
  value : Nat
  high : Nat
  den : Nat
  closed : Bool

namespace RoundingInterval

/-- The interval of a finite positive number. Its lower end is nearer when the number is a power of
two, where the numbers below lie twice as close. -/
def ofBinary (x : Binary64) : RoundingInterval :=
  let m := x.mantissa
  let quarter := x.scale - 2
  let up := twoTo quarter.toNat
  let below := if x.fraction.val = 0 && x.exponent.val > 1 then 1 else 2
  { low := (4 * m - below) * up
    value := 4 * m * up
    high := (4 * m + 2) * up
    den := twoTo (-quarter).toNat
    closed := m % 2 == 0 }

/-- A point of the decimal grid over the common denominator of the interval: `digits · 10 ^ power`
and the interval's own numbers, all scaled to whole numbers. -/
def scalePoint (i : RoundingInterval) (digits : Nat) (power : Int) : Nat :=
  digits * tenTo power.toNat * i.den

/-- The factor by which the interval's numbers grow on a grid finer than the units. -/
def gridFactor (power : Int) : Nat := tenTo (-power).toNat

/-- Whether `digits · 10 ^ power` rounds to the number. -/
def contains (i : RoundingInterval) (digits : Nat) (power : Int) : Bool :=
  let point := i.scalePoint digits power
  let low := i.low * gridFactor power
  let high := i.high * gridFactor power
  if i.closed then low ≤ point && point ≤ high else low < point && point < high

/-- How far the value has its first digit from the point: it lies below ten to this power and not
below the power before. -/
def point (i : RoundingInterval) : Int :=
  if i.den ≤ i.value then
    decimalLength (i.value / i.den)
  else
    1 - (decimalLength ((i.den + i.value - 1) / i.value - 1) : Int)

/-- The neighbour of the value on the grid of `power` that rounds to it; the nearer if both do, the
even one on a tie. -/
def onGrid (i : RoundingInterval) (power : Int) : Option Nat :=
  let unit := i.scalePoint 1 power
  let value := i.value * gridFactor power
  let below := value / unit
  let above := below + 1
  match i.contains below power, i.contains above power with
  | true, true =>
    let twice := 2 * (value % unit)
    if twice < unit || (twice == unit && below % 2 == 0) then some below else some above
  | true, false => some below
  | false, true => some above
  | false, false => none

/-- Tries grids with `count`, `count + 1`, … digits, as many as the fuel allows. -/
def search (i : RoundingInterval) : Nat → Nat → Option (Nat × Int)
  | 0, _ => none
  | fuel + 1, count =>
    let power := i.point - count
    match i.onGrid power with
    | some digits => some (digits, power)
    | none => i.search fuel (count + 1)

end RoundingInterval

namespace Binary64

/-- Seventeen digits tell any two binary numbers apart. -/
def digitLimit : Nat := 17

/-- The exact decimal expansion of a finite number. -/
def exact (x : Binary64) : Decimal :=
  ⟨x.negative, x.mantissa * twoTo x.scale.toNat * Nat.pow 5 (-x.scale).toNat, min x.scale 0⟩

/-- The shortest decimal that reads back as the finite number `x`. -/
def shortest (x : Binary64) : Decimal :=
  if x.mantissa = 0 then
    ⟨x.negative, 0, 0⟩
  else
    match (RoundingInterval.ofBinary x).search digitLimit 1 with
    | some (digits, power) => Decimal.trimmed ⟨x.negative, digits, power⟩
    | none => x.exact.trimmed

/-- The written form of a number, finite or not. -/
def text (x : Binary64) : String :=
  if x.isFinite then x.shortest.text
  else if x.isNan then "NaN"
  else if x.negative then "-Infinity"
  else "Infinity"

end Binary64

end ServiceWriter
