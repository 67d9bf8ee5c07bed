import QueueService.Unicode.Direction
import QueueService.Unicode.Joining
import QueueService.Unicode.NormalForm
import QueueService.Url.Domain.Folding

/-!
# Labels of host names

Between its dots a host name has labels. A label beyond ASCII has an ASCII form too, which starts with
`xn--`: its ASCII characters are followed by digits of base 36 that say which other characters are
missing and where.

## Contents
- `decode?`: what an ASCII form stands for.
- `labelText?`, `isLabel`: what a folded label stands for, and whether a host may be named so.
-/

namespace QueueService.Url

open Unicode

/-! ## The ASCII form -/

/-- The value of a digit of base 36. -/
def digit36? (c : Char) : Option Nat :=
  let n := c.toNat
  if 0x61 ≤ n && n ≤ 0x7A then some (n - 0x61)
  else if 0x30 ≤ n && n ≤ 0x39 then some (n - 0x30 + 26)
  else none

/-- The least digit that does not end a number, for the digit at place `k`. -/
def threshold (k bias : Nat) : Nat :=
  if k ≤ bias then 1 else if bias + 26 ≤ k then 26 else k - bias

/-- Divide by 35 until at most 455 is left, counting 36 for each division. -/
def skew (delta k : Nat) : Nat × Nat :=
  if 455 < delta then skew (delta / 35) (k + 36) else (delta, k)
termination_by delta
decreasing_by exact Nat.div_lt_self (by omega) (by omega)

/-- The bias behind an insertion. -/
def adapt (delta points : Nat) (first : Bool) : Nat :=
  let d := if first then delta / 700 else delta / 2
  let (d, k) := skew (d + d / points) 0
  k + 36 * d / (d + 38)

/-- Insert one character after another as the digits say. Between two insertions `weight` is one; `k` is
    the place of the next digit, `start` the position at the last insertion. The weight of a digit fits
    into 32 bits. -/
def insertions? (out : List Char) (n start position weight k bias : Nat) :
    List Char → Option (List Char)
  | [] => if weight = 1 then some out else none
  | c :: rest =>
    match digit36? c with
    | none => none
    | some d =>
      let position := position + d * weight
      let t := threshold k bias
      if d < t then
        let points := out.length + 1
        let n := n + position / points
        if n < 0x110000 && !(0xD800 ≤ n && n ≤ 0xDFFF) then
          let place := position % points
          insertions? (out.insertIdx place (Char.ofNat n)) n (place + 1) (place + 1) 1 36
            (adapt (position - start) points (start = 0)) rest
        else none
      else if weight * (36 - t) < 1 <<< 32 then
        insertions? out n start position (weight * (36 - t)) (k + 36) bias rest
      else none

/-- What an ASCII form stands for, read behind its mark: the characters before its last hyphen, with
    others inserted as the digits behind it say. A hyphen at the start is none. -/
def decode? (cs : List Char) : Option (List Char) :=
  match cs.reverse.dropWhile (· != '-') with
  | _ :: c :: basic =>
    insertions? (c :: basic).reverse 128 0 0 1 36 72 (cs.reverse.takeWhile (· != '-')).reverse
  | _ => insertions? [] 128 0 0 1 36 72 cs

/-! ## Labels -/

/-- Whether a character is one of ASCII. -/
def isAscii (c : Char) : Bool := c.toNat < 0x80

/-- What the part of a label behind `xn--` stands for: something that could not have been written
    plainly, and that is folded and in normal form. -/
def decodedLabel? (code : List Char) : Option (List Char) :=
  if code.all isAscii && code.getLast?.any (· != '-') && code.length ≤ 2000 then
    (decode? code).filter fun text =>
      !text.all isAscii && foldName? text == some text && normalForm text == text
  else none

/-- The text that a folded label stands for. -/
def labelText? (label : List Char) : Option (List Char) :=
  match label with
  | 'x' :: 'n' :: '-' :: '-' :: code => decodedLabel? code
  | _ => some label

/-- Whether a host may be named by a text. Beyond ASCII it has at most 1000 characters, does not begin
    with a mark, and has joiners only where they mean something. -/
def isLabel (text : List Char) : Bool :=
  text.all isAscii || (text.length ≤ 1000 && !text.head?.any isMark && joinersFit [] text)

end QueueService.Url
