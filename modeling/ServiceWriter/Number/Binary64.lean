import ServiceWriter.Number.Decimal

/-!
# Binary numbers of 64 bits

The numbers of the code tree are IEEE 754 binary64 numbers, held by their three fields. A finite one
is `± mantissa · 2 ^ scale`. `Binary64.nearest` rounds a quotient of natural numbers to the nearest
of them, a tie to the even mantissa.
-/

set_option autoImplicit false

namespace ServiceWriter

/-- Two to a power. -/
def twoTo (power : Nat) : Nat := Nat.pow 2 power

/-- Sign, biased exponent and fraction: one, eleven and fifty-two bits. -/
structure Binary64 where
  negative : Bool
  exponent : Fin 2048
  fraction : Fin 4503599627370496
  deriving DecidableEq, Repr

namespace Binary64

/-! ## Values -/

/-- Infinity, with the sign. -/
def infinity (negative : Bool) : Binary64 := ⟨negative, 2047, 0⟩

/-- The number that is not one. -/
def nan : Binary64 := ⟨false, 2047, 2251799813685248⟩

/-- Zero, with the sign. -/
def zero (negative : Bool) : Binary64 := ⟨negative, 0, 0⟩

/-- Neither infinite nor NaN. -/
def isFinite (x : Binary64) : Bool := x.exponent.val != 2047

/-- Not a number. -/
def isNan (x : Binary64) : Bool := !x.isFinite && x.fraction.val != 0

/-- The whole significand: a normal number has a leading one that its fraction leaves out. -/
def mantissa (x : Binary64) : Nat :=
  if x.exponent.val = 0 then x.fraction.val else twoTo 52 + x.fraction.val

/-- The power of two that the mantissa is multiplied with. -/
def scale (x : Binary64) : Int :=
  (max x.exponent.val 1 : Nat) - 1075

/-- Below zero, zero itself excluded. -/
def isNegative (x : Binary64) : Bool :=
  x.negative && x.mantissa != 0

/-- The same number without its sign. -/
def abs (x : Binary64) : Binary64 := { x with negative := false }

/-! ## Rounding -/

/-- The number with mantissa `m` and scale `s`, for `m` at most `2 ^ 53` and `s` at least `-1074`;
infinity past the largest scale. -/
def assemble (negative : Bool) (m : Nat) (s : Int) : Binary64 :=
  let carried := m == twoTo 53
  let m := if carried then twoTo 52 else m
  let s := if carried then s + 1 else s
  if s > 971 then infinity negative
  else if m < twoTo 52 then ⟨negative, 0, Fin.ofNat _ m⟩
  else ⟨negative, Fin.ofNat _ (s + 1075).toNat, Fin.ofNat _ (m - twoTo 52)⟩

/-- `num / den` rounded to a whole number, a tie to the even one. -/
def roundQuotient (num den : Nat) : Nat :=
  let q := num / den
  let twice := 2 * (num % den)
  if twice > den || (twice == den && q % 2 == 1) then q + 1 else q

/-- The binary number nearest to `± num / den`, for a positive `den`. -/
def nearest (negative : Bool) (num den : Nat) : Binary64 :=
  if num = 0 then
    zero negative
  else
    let guess : Int := (num.log2 : Int) - den.log2 - 52
    let scaled (s : Int) : Nat × Nat := (num * twoTo (-s).toNat, den * twoTo s.toNat)
    let fits (s : Int) : Bool := let (n, d) := scaled s; d * twoTo 52 ≤ n
    let s := max (if fits guess then guess else guess - 1) (-1074)
    let (n, d) := scaled s
    assemble negative (roundQuotient n d) s

/-- No finite binary number, other than zero, has its first digit past this many places from the
point. -/
def decimalReach : Int := 400

/-- The binary number that a decimal number denotes. -/
def ofDecimal (d : Decimal) : Binary64 :=
  let point := decimalLength d.digits + d.exponent
  if d.digits = 0 || point < -decimalReach then
    zero d.negative
  else if point > decimalReach then
    infinity d.negative
  else
    nearest d.negative (d.digits * tenTo d.exponent.toNat) (tenTo (-d.exponent).toNat)

end Binary64

end ServiceWriter
