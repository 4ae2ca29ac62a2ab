import ClientGen.Number.Double
import ClientGen.Text.Digits

/-!
# Decimal notation

The numbers that a decimal text writes: an optional sign, digits with at most one point
among or around them, and an optional exponent; or one of the words for infinity and for
what is no number, in any case of letters.
-/

namespace ClientGen

/-- What a decimal text writes: a number `± digits * 10 ^ exponent`, or something that is
not finite. -/
inductive Decimal where
  | finite (negative : Bool) (digits : Nat) (exponent : Int)
  | special
deriving DecidableEq

namespace Decimal

/-- The exponent after the letter `e`, or zero if nothing follows. -/
def exponent? : List Char → Option Int
  | [] => some 0
  | c :: cs => if c = 'e' || c = 'E' then Text.integer? 10 cs else none

/-- A decimal text after its sign. -/
def unsigned? (negative : Bool) (cs : List Char) : Option Decimal :=
  let whole := cs.takeWhile Char.isDigit
  let rest := cs.dropWhile Char.isDigit
  let (fraction, rest) :=
    match rest with
    | '.' :: rest => (rest.takeWhile Char.isDigit, rest.dropWhile Char.isDigit)
    | rest => ([], rest)
  if whole.isEmpty && fraction.isEmpty then
    none
  else
    (exponent? rest).map fun e =>
      .finite negative ((Text.natural? 10 (whole ++ fraction)).getD 0) (e - fraction.length)

/-- The words for infinity and for what is no number. -/
def specialWords : List String := ["inf", "infinity", "nan"]

/-- What a decimal text writes. -/
def ofText? (text : String) : Option Decimal :=
  let (negative, cs) :=
    match text.toList with
    | '-' :: cs => (true, cs)
    | '+' :: cs => (false, cs)
    | cs => (false, cs)
  if specialWords.contains (String.ofList (cs.map Char.toLower)) then some .special
  else unsigned? negative cs

/-- The nearest double, if there is one. -/
def toDouble? : Decimal → Option Double
  | .finite negative digits exponent => Double.ofDecimal? negative digits exponent
  | .special => none

end Decimal

end ClientGen
