import QueueService.Unicode.Combining
import QueueService.Unicode.Composition

/-!
# Normal form

Texts that differ only in how letters with marks are written have one normal form: marks are in the
order of their classes, and everything that can be composed is.
-/

namespace QueueService.Unicode

/-- Put a character behind a text in reverse order. A mark goes in front of marks of higher classes. -/
def insertMark (c : Char) : List Char → List Char
  | [] => [c]
  | d :: before =>
    if 0 < combiningClass c && combiningClass c < combiningClass d then d :: insertMark c before
    else c :: d :: before

/-- The parts of all characters, with marks in order. -/
def decomposed (cs : List Char) : List Char :=
  ((cs.flatMap parts).foldl (fun before c => insertMark c before) []).reverse

/-- Whether a mark in between keeps a character from being composed with the letter in front of it:
    the last one, if the character is no mark or not of a higher class. -/
def isBlocked (c : Char) : List Char → Bool
  | [] => false
  | mark :: _ => combiningClass c ≤ combiningClass mark

/-- Compose a letter with what follows, where possible. The marks behind the letter, which it was not
    composed with, and all that is done are in reverse order. -/
def compose (done : List Char) (letter : Char) (marks : List Char) : List Char → List Char
  | [] => (marks ++ letter :: done).reverse
  | c :: rest =>
    match if isBlocked c marks then none else composed? (parts letter ++ [c]) with
    | some composite => compose done composite marks rest
    | none =>
      if combiningClass c = 0 then compose (marks ++ letter :: done) c [] rest
      else compose done letter (c :: marks) rest

/-- The normal form of a text of small letters. Before U+0300 there is nothing to compose. -/
def normalForm (cs : List Char) : List Char :=
  if cs.all (·.toNat < 0x300) then cs
  else
    let parted := decomposed cs
    match parted.dropWhile (combiningClass · != 0) with
    | [] => parted
    | letter :: rest => compose (parted.takeWhile (combiningClass · != 0)).reverse letter [] rest

theorem normalForm_of_below {cs : List Char} (h : cs.all (·.toNat < 0x300) = true) :
    normalForm cs = cs := if_pos h

end QueueService.Unicode
