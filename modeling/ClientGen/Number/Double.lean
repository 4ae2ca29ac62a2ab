/-!
# Finite doubles

A finite double is kept as an exact number `± significand * 2 ^ exponent`. The
nearest double to a quotient of natural numbers, to a decimal, and to a product or quotient
of doubles, is computed with natural numbers alone; a half goes to the even significand, and
a number beyond the largest double has none.
-/

namespace ClientGen

/-- The number `significand * 2 ^ exponent`, negated when `negative` holds. -/
structure Double where
  negative : Bool
  significand : Nat
  exponent : Int
deriving DecidableEq

namespace Double

/-- A power of two. -/
def twoPow (n : Nat) : Nat := Nat.pow 2 n

/-- A power of ten. -/
def tenPow (n : Nat) : Nat := Nat.pow 10 n

/-- The exponent of the smallest subnormal double. -/
def minExponent : Int := -1074

/-- The exponent of the largest double. -/
def maxExponent : Int := 971

/-- Zero with the given sign. -/
def zero (negative : Bool) : Double :=
  ⟨negative, 0, minExponent⟩

/-- The natural number nearest to `n / d`, a half going to the even one. -/
def roundQuotient (n d : Nat) : Nat :=
  let q := n / d
  let r := n % d
  if 2 * r < d then q else if d < 2 * r then q + 1 else q + q % 2

/-- Numerator and denominator of `n / d` divided by `2 ^ e`. -/
def descale (n d : Nat) (e : Int) : Nat × Nat :=
  (n * twoPow (-e).toNat, d * twoPow e.toNat)

/-- The double nearest to `n / d` for a positive `d`, or none if it would exceed the
largest double. -/
def ofRatio? (negative : Bool) (n d : Nat) : Option Double :=
  if n = 0 then
    some (zero negative)
  else
    let low := max ((n.log2 : Int) - d.log2 - 53) minExponent
    let (n₀, d₀) := descale n d low
    let exponent := if n₀ / d₀ < twoPow 53 then low else low + 1
    let (n₁, d₁) := descale n d exponent
    let rounded := roundQuotient n₁ d₁
    let (significand, exponent) :=
      if rounded = twoPow 53 then (twoPow 52, exponent + 1) else (rounded, exponent)
    if maxExponent < exponent then none else some ⟨negative, significand, exponent⟩

/-- The number of decimal digits of `n`. -/
def digitCount (n : Nat) : Nat :=
  (Nat.toDigits 10 n).length

/-- The double nearest to `digits * 10 ^ exponent`, or none if it would exceed the
largest double. Exponents far outside the range of doubles are settled by the number
of digits. -/
def ofDecimal? (negative : Bool) (digits : Nat) (exponent : Int) : Option Double :=
  if digits = 0 then
    some (zero negative)
  else if 400 < digitCount digits + exponent then
    none
  else if digitCount digits + exponent < -400 then
    some (zero negative)
  else
    ofRatio? negative (digits * tenPow exponent.toNat) (tenPow (-exponent).toNat)

/-! ### Arithmetic -/

/-- Numerator and denominator of the magnitude of a double. -/
def ratio (x : Double) : Nat × Nat :=
  (x.significand * twoPow x.exponent.toNat, twoPow (-x.exponent).toNat)

/-- The double nearest to the product of two doubles, or none if it would exceed the largest
double. -/
def mul? (x y : Double) : Option Double :=
  ofRatio? (x.negative ^^ y.negative) (x.ratio.1 * y.ratio.1) (x.ratio.2 * y.ratio.2)

/-- The double nearest to the quotient of two doubles, of which the second one is not zero, or none
if it would exceed the largest double. -/
def div? (x y : Double) : Option Double :=
  ofRatio? (x.negative ^^ y.negative) (x.ratio.1 * y.ratio.2) (x.ratio.2 * y.ratio.1)

end Double

end ClientGen
