import QueueService.Binary64.Basic

/-!
# Shortest decimal digits

The decimal text of a binary64 number with the fewest digits that still read back as that number, and
of those the nearest. The digits are found in whole-number arithmetic: for each count of digits the
two neighbours of the number on that decimal grid are tried.

## Contents
- `shortest`: the digits and their decimal exponent.
- `Layout`, `render`: where the point stands and when an exponent is written.
-/

namespace QueueService.Binary64

/-! ## The interval of a number -/

/-- The reals that round to a number, as numerators over one denominator: the number itself, the lower
    and the upper end. The ends belong to the interval when the significand is even. -/
structure Interval where
  low : Nat
  value : Nat
  high : Nat
  denominator : Nat
  closed : Bool

/-- The interval of a positive number, in quarters of its unit in the last place. The lower neighbour
    of a power of two is half as far away as the upper one. -/
def interval (x : Binary64) : Interval :=
  let below := if x.significand = 1 <<< 52 && leastExponent < x.exponent then 1 else 2
  let (unit, den) :=
    match x.exponent with
    | .ofNat n => (1 <<< n, 4)
    | .negSucc n => (1, 4 <<< (n + 1))
  { low := (4 * x.significand - below) * unit, value := 4 * x.significand * unit,
    high := (4 * x.significand + 2) * unit, denominator := den, closed := x.significand % 2 == 0 }

/-- Whether the decimal `digits * num / den` lies in the interval. -/
def Interval.contains (i : Interval) (digits num den : Nat) : Bool :=
  let d := digits * num * i.denominator
  if i.closed then i.low * den ≤ d && d ≤ i.high * den else i.low * den < d && d < i.high * den

/-! ## The search -/

/-- The unit `10 ^ e` as a quotient. -/
def decimalUnit (e : Int) : Nat × Nat :=
  match e with
  | .ofNat n => (Nat.pow 10 n, 1)
  | .negSucc n => (1, Nat.pow 10 (n + 1))

/-- The whole multiple of `10 ^ e` nearest to the number among the two around it that lies in the
    interval; of two equally near the even one. -/
def onGrid? (i : Interval) (e : Int) : Option Nat :=
  let (num, den) := decimalUnit e
  let scale := num * i.denominator
  let floor := i.value * den / scale
  let remainder := i.value * den % scale
  let lowIn := i.contains floor num den
  let highIn := i.contains (floor + 1) num den
  if lowIn && highIn then
    if 2 * remainder < scale then some floor
    else if scale < 2 * remainder then some (floor + 1)
    else some (floor + floor % 2)
  else if lowIn then some floor
  else if highIn then some (floor + 1)
  else none

/-- The greatest `e` with `10 ^ e` at most the number, searched downwards from `start`. -/
def decimalExponent (i : Interval) (start : Int) : Nat → Int
  | 0 => start
  | fuel + 1 =>
    let (num, den) := decimalUnit start
    if num * i.denominator ≤ i.value * den then start else decimalExponent i (start - 1) fuel

/-- The first grid, from coarse to fine, that has a number of the interval. -/
def search (i : Interval) (e : Int) : Nat → Nat × Int
  | 0 => ((onGrid? i e).getD 0, e)
  | fuel + 1 =>
    match onGrid? i e with
    | some digits => (digits, e)
    | none => search i (e - 1) fuel

/-- Drop the zeros at the end of the digits. -/
def dropZeros (digits : Nat) (e : Int) : Nat → Nat × Int
  | 0 => (digits, e)
  | fuel + 1 =>
    if digits % 10 = 0 && digits != 0 then dropZeros (digits / 10) (e + 1) fuel else (digits, e)

/-- The fewest digits that read back as the number, as a whole number and a power of ten. -/
def shortest (x : Binary64) : Nat × Int :=
  if x.significand = 0 then (0, 0)
  else
    let i := interval x
    let (digits, e) := search i (decimalExponent i 309 640) 20
    dropZeros digits e 20

/-! ## Layout -/

/-- Where the point stands in a written number. -/
structure Layout where
  /-- Numbers from `10 ^ leastPlain` on are written without an exponent … -/
  leastPlain : Int
  /-- … as long as they are below `10 ^ plainBound`. -/
  plainBound : Int
  /-- Whether whole numbers written without an exponent carry a fraction. -/
  wholeFraction : Bool

/-- Write a number: an exponent always has its sign. -/
def render (layout : Layout) (x : Binary64) : List Char :=
  let (n, e) := shortest x
  let digits := Nat.toDigits 10 n
  let count : Int := digits.length
  let point := count + e
  let whole := if layout.wholeFraction then ['.', '0'] else []
  if n = 0 then '0' :: whole
  else if layout.leastPlain < point && point ≤ layout.plainBound then
    if 0 ≤ e then digits ++ List.replicate e.toNat '0' ++ whole
    else if 0 < point then digits.take point.toNat ++ '.' :: digits.drop point.toNat
    else '0' :: '.' :: List.replicate (-point).toNat '0' ++ digits
  else
    let mantissa := if digits.length = 1 then digits else digits.take 1 ++ '.' :: digits.drop 1
    let sign := if point - 1 < 0 then '-' else '+'
    mantissa ++ 'e' :: sign :: Nat.toDigits 10 (point - 1).natAbs

end QueueService.Binary64
