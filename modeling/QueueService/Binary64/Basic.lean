/-!
# Binary64 magnitudes

Non-negative finite binary64 numbers as exact pairs `significand * 2 ^ exponent`, with the rounding of
an arbitrary quotient to the nearest of them. Products and quotients are rounded once, from their
exact value; where the result would be infinite there is none.
-/

namespace QueueService

/-- A non-negative finite binary64 number, `significand * 2 ^ exponent`. The significand has 53 bits,
    or fewer where the exponent is the least one. -/
structure Binary64 where
  significand : Nat
  exponent : Int
  deriving DecidableEq

namespace Binary64

/-- The exponent of the numbers around zero. -/
def leastExponent : Int := -1074

/-- The exponent of the largest finite numbers. -/
def greatestExponent : Int := 971

/-- The number zero. -/
def zero : Binary64 := ⟨0, leastExponent⟩

/-- Divide and round to the nearest whole number, halves to the even neighbour. -/
def divideToNearest (num den : Nat) : Nat :=
  let q := num / den
  let r := num % den
  if 2 * r < den then q
  else if den < 2 * r then q + 1
  else q + q % 2

/-- The whole part and the rounded value of `num / den / 2 ^ e` differ only in how they end, so both
    are taken from the same pair of numbers. -/
def scaled (num den : Nat) (e : Int) : Nat × Nat :=
  match e with
  | .ofNat n => (num, den <<< n)
  | .negSucc n => (num <<< (n + 1), den)

/-- The number nearest to `num / den`, ties to the even significand; none where that is infinite. -/
def ofQuotient? (num den : Nat) : Option Binary64 :=
  if num = 0 then some zero
  else
    let estimate := max ((Nat.log2 num : Int) - Nat.log2 den - 53) leastExponent
    let (n, d) := scaled num den estimate
    let e := if 1 <<< 53 ≤ n / d then estimate + 1 else estimate
    let (n, d) := scaled num den e
    let s := divideToNearest n d
    let x : Binary64 := if s = 1 <<< 53 then ⟨1 <<< 52, e + 1⟩ else ⟨s, e⟩
    if x.exponent ≤ greatestExponent then some x else none

/-- The number nearest to a whole number. -/
def ofNat? (n : Nat) : Option Binary64 := ofQuotient? n 1

/-- The rounded product. -/
def mul? (x y : Binary64) : Option Binary64 :=
  let (n, d) := scaled (x.significand * y.significand) 1 (-(x.exponent + y.exponent))
  ofQuotient? n d

/-- The rounded quotient by a number that is not zero. -/
def div? (x y : Binary64) : Option Binary64 :=
  let (n, d) := scaled x.significand y.significand (y.exponent - x.exponent)
  ofQuotient? n d

/-- The nearest whole number, halves upwards. -/
def roundHalfUp (x : Binary64) : Nat :=
  match x.exponent with
  | .ofNat n => x.significand <<< n
  | .negSucc n => (2 * x.significand + 1 <<< (n + 1)) >>> (n + 2)

/-- The nearest numbers to the powers of ten with exponents up to 308. -/
def powerOfTen? (n : Nat) : Option Binary64 := if n ≤ 308 then ofNat? (Nat.pow 10 n) else none

end Binary64

end QueueService
