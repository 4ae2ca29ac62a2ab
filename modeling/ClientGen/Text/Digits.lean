/-!
# Digits

Values of digits in a base, and of the leading run of decimal digits of a text.
-/

namespace ClientGen.Text

/-- The value of a digit in a base up to sixteen. -/
def digit? (base : Nat) (c : Char) : Option Nat :=
  let n :=
    if '0' ≤ c && c ≤ '9' then c.toNat - '0'.toNat
    else if 'a' ≤ c && c ≤ 'f' then c.toNat - 'a'.toNat + 10
    else if 'A' ≤ c && c ≤ 'F' then c.toNat - 'A'.toNat + 10
    else base
  if n < base then some n else none

/-- The value of a text of digits that continues the number `n`, if all are digits. -/
def digitsFrom? (base : Nat) (n : Nat) : List Char → Option Nat
  | [] => some n
  | c :: cs => (digit? base c).bind fun d => digitsFrom? base (base * n + d) cs

/-- The value of a nonempty text of digits. -/
def natural? (base : Nat) : List Char → Option Nat
  | [] => none
  | c :: cs => digitsFrom? base 0 (c :: cs)

/-- The value of a nonempty text of digits with an optional sign. -/
def integer? (base : Nat) : List Char → Option Int
  | '+' :: cs => (natural? base cs).map Int.ofNat
  | '-' :: cs => (natural? base cs).map fun n => -(Int.ofNat n)
  | cs => (natural? base cs).map Int.ofNat

/-- The largest signed integer of 64 bits. -/
def maxInt64 : Int := 9223372036854775807

/-- The smallest signed integer of 64 bits. -/
def minInt64 : Int := -9223372036854775808

/-- The largest unsigned integer of 64 bits. -/
def maxNat64 : Nat := 18446744073709551615

/-- An optional sign and digits, if they name a signed integer of 64 bits. -/
def int64? (base : Nat) (cs : List Char) : Option Int :=
  (integer? base cs).filter fun n => minInt64 ≤ n && n ≤ maxInt64

/-- The decimal text of an integer. -/
def integerText (n : Int) : String :=
  if n < 0 then String.ofList ('-' :: Nat.toDigits 10 n.natAbs)
  else String.ofList (Nat.toDigits 10 n.natAbs)

end ClientGen.Text
