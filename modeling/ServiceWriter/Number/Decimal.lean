/-!
# Decimal numbers

A decimal number is a sign, a coefficient and a power of ten. It is what a number literal spells and
what the digits of a binary number form. `Decimal.text` is its written form: positional as long as
the number is neither very small nor very large, and with an exponent otherwise.
-/

set_option autoImplicit false

namespace ServiceWriter

/-- The number `± digits · 10 ^ exponent`. Zero has a sign too. -/
structure Decimal where
  negative : Bool
  digits : Nat
  exponent : Int
  deriving DecidableEq, Repr

/-- Ten to a power. -/
def tenTo (power : Nat) : Nat := Nat.pow 10 power

/-- How many decimal digits a positive number has. -/
def decimalLength (n : Nat) : Nat :=
  (Nat.toDigits 10 n).length

/-- Moves the zeros that end a coefficient into the exponent, at most `fuel` of them. -/
def Decimal.trimZeros : Nat → Nat → Int → Nat × Int
  | 0, digits, exponent => (digits, exponent)
  | fuel + 1, digits, exponent =>
    if digits != 0 && digits % 10 == 0 then
      trimZeros fuel (digits / 10) (exponent + 1)
    else
      (digits, exponent)

/-- The same number with a coefficient that does not end in zero, unless it is zero. -/
def Decimal.trimmed (d : Decimal) : Decimal :=
  let (digits, exponent) := trimZeros (decimalLength d.digits) d.digits d.exponent
  ⟨d.negative, digits, exponent⟩

/-! ## Written form -/

/-- Numbers below ten to this power are written positionally, all digits before the point. -/
def positionalLimit : Int := 21

/-- Positive numbers below one are written positionally when at most this many zeros stand between
the point and the first digit. -/
def leadingZeroLimit : Int := 5

/-- A row of zeros. -/
def zeros (count : Nat) : List Char := List.replicate count '0'

/-- The written form of a coefficient with `digits` as its digits, the point standing `point` places
to the right of the first one. -/
def layoutDigits (digits : List Char) (point : Int) : List Char :=
  let length : Int := digits.length
  if length ≤ point && point ≤ positionalLimit then
    digits ++ zeros (point - length).toNat
  else if 0 < point && point ≤ positionalLimit then
    digits.take point.toNat ++ '.' :: digits.drop point.toNat
  else if -leadingZeroLimit ≤ point && point ≤ 0 then
    '0' :: '.' :: zeros (-point).toNat ++ digits
  else
    let power := point - 1
    let sign := if power < 0 then '-' else '+'
    let mantissa := match digits with
      | [] => []
      | [d] => [d]
      | d :: rest => d :: '.' :: rest
    mantissa ++ 'e' :: sign :: Nat.toDigits 10 power.natAbs

/-- The shortest form of the digits: no zeros at either end, no point after a whole number. Zero is
written without a sign. -/
def Decimal.text (d : Decimal) : String :=
  if d.digits = 0 then
    "0"
  else
    let t := d.trimmed
    let digits := Nat.toDigits 10 t.digits
    let body := layoutDigits digits (digits.length + t.exponent)
    String.ofList (if d.negative then '-' :: body else body)

end ServiceWriter
