import ClientGen.Number.Double

/-!
# Shortest decimals

The decimal text of a double is the shortest one that reads back to it. The reals that
round to a double form an interval, whose ends belong to it when the significand is
even. On the decimal grids `10 ^ k`, from coarse to fine, the two neighbours of the
double are tested against that interval; the first grid with a hit wins, of two hits
the nearer one, and a tie goes to the even digit.
-/

namespace ClientGen.Double

/-- A quarter of the interval around a double: `four` is the double itself, `low` and
`high` are the ends, all in units of `2 ^ (exponent - 2)`. -/
structure Interval where
  low : Nat
  four : Nat
  high : Nat
  closed : Bool
  exponent : Int

/-- The reals that round to `x`. Below a power of two the spacing is halved. -/
def interval (x : Double) : Interval where
  low := if x.significand = twoPow 52 ∧ minExponent < x.exponent then 4 * x.significand - 1
    else 4 * x.significand - 2
  four := 4 * x.significand
  high := 4 * x.significand + 2
  closed := x.significand % 2 = 0
  exponent := x.exponent - 2

/-- Factors that bring `units * 2 ^ exponent` and `digits * 10 ^ k` to one scale. -/
def Interval.factors (i : Interval) (k : Int) : Nat × Nat :=
  (twoPow i.exponent.toNat * tenPow (-k).toNat, tenPow k.toNat * twoPow (-i.exponent).toNat)

/-- Whether `digits * 10 ^ k` lies in the interval. -/
def Interval.contains (i : Interval) (k : Int) (digits : Nat) : Bool :=
  let (f, g) := i.factors k
  if i.closed then i.low * f ≤ digits * g && digits * g ≤ i.high * f
  else i.low * f < digits * g && digits * g < i.high * f

/-- The point of the grid `10 ^ k` that stands for the interval, if one does. -/
def Interval.gridPoint? (i : Interval) (k : Int) : Option Nat :=
  let (f, g) := i.factors k
  let below := i.four * f / g
  match i.contains k below, i.contains k (below + 1) with
  | false, false => none
  | true, false => some below
  | false, true => some (below + 1)
  | true, true =>
    let twice := 2 * (i.four * f)
    let middle := (2 * below + 1) * g
    if twice < middle then some below
    else if middle < twice then some (below + 1)
    else some (below + below % 2)

/-- The first grid with a hit, starting at `10 ^ k`, among `steps` grids. -/
def Interval.search (i : Interval) (k : Int) : Nat → Nat × Int
  | 0 => (i.four * (i.factors k).1 / (i.factors k).2, k)
  | steps + 1 =>
    match i.gridPoint? k with
    | some digits => (digits, k)
    | none => i.search (k - 1) steps

/-- Digits and exponent of the shortest decimal that reads back to a nonzero `x`. The
search starts above the leading digit, so seventeen digits are reached. -/
def shortest (x : Double) : Nat × Int :=
  let leading := ((x.significand.log2 : Int) + x.exponent) * 30103 / 100000 + 2
  x.interval.search leading 24

/-- The exponents, in scientific notation, of decimals that are written positionally. -/
def isPositional (e : Int) : Bool :=
  -5 ≤ e && e < 16

/-- Text of `digits * 10 ^ k`: positional with at least one digit after the point, or
with one digit before it and a signed exponent. -/
def decimalText (digits : Nat) (k : Int) : String :=
  let ds := Nat.toDigits 10 digits
  let e := k + ds.length - 1
  if isPositional e then
    if 0 ≤ k then
      String.ofList (ds ++ List.replicate k.toNat '0' ++ ['.', '0'])
    else if 0 ≤ e then
      String.ofList (ds.take (e.toNat + 1) ++ '.' :: ds.drop (e.toNat + 1))
    else
      String.ofList ('0' :: '.' :: List.replicate ((-e).toNat - 1) '0' ++ ds)
  else
    let sign := if 0 ≤ e then '+' else '-'
    let point := if ds.length = 1 then [] else '.' :: ds.drop 1
    String.ofList (ds.take 1 ++ point ++ 'e' :: sign :: Nat.toDigits 10 e.natAbs)

/-- The text of a double. -/
def text (x : Double) : String :=
  let sign := if x.negative then "-" else ""
  if x.significand = 0 then
    sign ++ "0.0"
  else
    let (digits, k) := x.shortest
    sign ++ decimalText digits k

end ClientGen.Double
