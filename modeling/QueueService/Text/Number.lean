/-!
# Decimal literals

Decimal literals in text, such as `-1.5e3`, and which of them are in the range of binary64. A literal
is kept exactly, as its digits and a power of ten, and compared with the bound of the range in whole
numbers. The number of its digits is not limited; the digits of its exponent count up to a bound.

## Contents
- `countedUpTo`, `exponentUpTo?`: exponents whose digits count up to a bound.
- `Literal`: a literal and its reading.
- `Literal.isFinite`: whether the value stays below the point from which it rounds to infinity.
-/

namespace QueueService.Number

/-- An unsigned or signed decimal literal: the value is the number that `digits` spells, times ten to
    the power of `exponent`. -/
structure Literal where
  negative : Bool
  digits : List Char
  exponent : Int
  deriving DecidableEq

/-! ## Reading -/

/-- Split a leading sign off; the first component says whether it is a minus. -/
def splitSign : List Char → Bool × List Char
  | '-' :: rest => (true, rest)
  | '+' :: rest => (false, rest)
  | cs => (false, cs)

/-- Split the leading ASCII digits off. -/
def splitDigits (cs : List Char) : List Char × List Char :=
  (cs.takeWhile Char.isDigit, cs.dropWhile Char.isDigit)

/-- Split a point and the digits behind it off; without a point there are none. -/
def splitFraction : List Char → List Char × List Char
  | '.' :: rest => splitDigits rest
  | cs => ([], cs)

/-- The number that the digits of an exponent spell. Digits behind a number of `bound` or more do not
    count. -/
def countedUpTo (bound : Nat) (ds : List Char) : Nat :=
  ds.foldl (fun n c => if n < bound then 10 * n + (c.toNat - 0x30) else n) 0

/-- The exponent that makes up the rest of a number, with its digits counted up to a bound; no text at
    all is exponent zero. -/
def exponentUpTo? (bound : Nat) : List Char → Option Int
  | [] => some 0
  | c :: rest =>
    if c = 'e' ∨ c = 'E' then
      let (negative, ds) := splitSign rest
      if !ds.isEmpty && ds.all Char.isDigit then
        let n : Nat := countedUpTo bound ds
        some (if negative then -n else n)
      else none
    else none

/-- The number that the digits of a literal's exponent spell, counted up to 65536. -/
def exponentSize (ds : List Char) : Nat := countedUpTo 0x10000 ds

/-- The exponent that makes up the rest of a literal. -/
def exponent? (cs : List Char) : Option Int := exponentUpTo? 0x10000 cs

/-- Read a literal: an optional sign, digits with an optional point among or around them, and an
    optional exponent. -/
def Literal.parse? (cs : List Char) : Option Literal :=
  let (negative, unsigned) := splitSign cs
  let (whole, afterWhole) := splitDigits unsigned
  let (fraction, afterFraction) := splitFraction afterWhole
  if whole.isEmpty && fraction.isEmpty then none
  else (exponent? afterFraction).map fun e =>
    { negative, digits := whole ++ fraction, exponent := e - fraction.length }

/-! ## Range -/

/-- The number that the digits spell. -/
def Literal.significand (l : Literal) : Nat := Nat.ofDigitChars 10 l.digits 0

/-- The least magnitude that rounds to infinity in binary64: halfway between the largest finite
    number and the power of two above it. -/
def overflowBound : Nat := 1 <<< 1024 - 1 <<< 970

/-- Whether the value rounds to a finite binary64 number. Literals far outside the range are decided
    by their exponent and their number of digits, before any power of ten is formed. -/
def Literal.isFinite (l : Literal) : Bool :=
  l.significand == 0 ||
    match l.exponent with
    | .ofNat e => e < 309 && l.significand * Nat.pow 10 e < overflowBound
    | .negSucc e => l.digits.length ≤ e || l.significand < overflowBound * Nat.pow 10 (e + 1)

/-- Whether a text is a decimal literal with a finite value. -/
def isFiniteLiteral (text : String) : Bool :=
  (Literal.parse? text.toList).any Literal.isFinite

end QueueService.Number
