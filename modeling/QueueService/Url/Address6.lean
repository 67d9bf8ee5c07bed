import QueueService.Text.Hex

/-!
# Numeric hosts of sixteen bytes

An address of sixteen bytes has eight pieces of up to four hexadecimal digits between colons. One run
of pieces may be left out at a double colon, and the last two pieces may be written as four decimal
numbers between dots.
-/

namespace QueueService.Url

/-- Whether a text is a decimal number below 256 without zeros in front. -/
def isByteNumber (cs : List Char) : Bool :=
  match cs with
  | [] => false
  | ['0'] => true
  | '0' :: _ => false
  | _ => cs.all Char.isDigit && cs.length ≤ 3 && Nat.ofDigitChars 10 cs 0 < 256

/-- Whether a text is four decimal numbers between dots. -/
def isDottedTail (cs : List Char) : Bool :=
  let parts := cs.splitOn '.'
  parts.length == 4 && parts.all isByteNumber

/-- Whether a text is a piece. -/
def isPiece (cs : List Char) : Bool :=
  !cs.isEmpty && cs.length ≤ 4 && cs.all fun c => (Hex.digit? c).isSome

/-- The number of pieces that groups between colons stand for, if all of them are well formed. Where
    `tail` says so, the last group may be four decimal numbers, which stand for two pieces. -/
def countPieces? (tail : Bool) : List (List Char) → Option Nat
  | [] => some 0
  | [g] => if isPiece g then some 1 else if tail && isDottedTail g then some 2 else none
  | g :: rest => if isPiece g then (countPieces? tail rest).map (· + 1) else none

/-- The number of pieces of a text with no double colon; no text has none. -/
def pieces? (tail : Bool) (cs : List Char) : Option Nat :=
  if cs.isEmpty then some 0 else countPieces? tail (cs.splitOn ':')

/-- Split a text at its first double colon. The part before it is gathered in reverse order. -/
def splitDoubleColon? (before : List Char) : List Char → Option (List Char × List Char)
  | ':' :: ':' :: rest => some (before.reverse, rest)
  | c :: rest => splitDoubleColon? (c :: before) rest
  | [] => none

/-- Whether a text is an address of sixteen bytes. -/
def isAddress6 (cs : List Char) : Bool :=
  match splitDoubleColon? [] cs with
  | none => pieces? true cs == some 8
  | some (before, after) =>
    match pieces? false before, pieces? true after with
    | some m, some n => m + n ≤ 7
    | _, _ => false

end QueueService.Url
