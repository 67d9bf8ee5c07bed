import QueueService.Json.Basic
import QueueService.Text.Hex
import QueueService.Text.Number

/-!
# JSON tokens

The first half of reading a document: characters to tokens. The scanner is a machine that takes one
character at a time, so it is a plain recursion on the text. A run of characters that may occur in a
number is read as one number, and a run of letters as one word; no valid document has two of them
side by side.

## Contents
- `Number.parse?`: the value of a number.
- `Mode`, `Token.scan`: the machine.
-/

namespace QueueService.Json

/-- The tokens of a document. -/
inductive Token
  | openBrace
  | closeBrace
  | openBracket
  | closeBracket
  | comma
  | colon
  | null
  | bool (value : Bool)
  | number (value : Number)
  | string (value : String)
  deriving DecidableEq

/-! ## Numbers -/

namespace Number

/-- The largest unsigned integer of 64 bits. -/
def greatest : Nat := 1 <<< 64 - 1

/-- Digits gathered into a significand of 64 bits, with the number of digits that found room. The first
    digit without room ends the gathering. -/
def gather (significand used : Nat) : List Char → Nat × Nat
  | [] => (significand, used)
  | c :: rest =>
    let next := significand * 10 + (c.toNat - '0'.toNat)
    if next ≤ greatest then gather next (used + 1) rest else (significand, used)

/-- Scale a significand by a power of ten in binary64. Within 308 places this is one multiplication or
    one division; a smaller power divides by `10 ^ 308` first, as often as `steps` allows, until the
    number is zero. No number stands for a value that is too large. -/
def scale? (x : Binary64) (e : Int) : Nat → Option Binary64
  | 0 => some x
  | steps + 1 =>
    if e.natAbs ≤ 308 then
      match Binary64.powerOfTen? e.natAbs with
      | some p => if 0 ≤ e then x.mul? p else x.div? p
      | none => none
    else if x.significand = 0 then some x
    else if 0 ≤ e then none
    else
      match Binary64.powerOfTen? 308 with
      | some p =>
        match x.div? p with
        | some y => scale? y (e + 308) steps
        | none => none
      | none => none

/-- The greatest exponent that is kept, that of 32 bits with a sign: a number with a written exponent
    beyond it is zero or too large. -/
def exponentLimit : Nat := 1 <<< 31 - 1

/-- The number `significand * 10 ^ (start + written)`, where a sum of exponents out of range stays at
    the end of the range. Dividing by `10 ^ 308` brings any number of 64 bits to zero in three steps. -/
def binary? (negative : Bool) (significand : Nat) (start written : Int) : Option Number :=
  if exponentLimit < written.natAbs then
    if significand = 0 || written < 0 then some (.binary negative .zero) else none
  else
    let e := max (-(exponentLimit : Int) - 1) (min (exponentLimit : Int) (start + written))
    match Binary64.ofNat? significand with
    | some x => (scale? x e 4).map (.binary negative)
    | none => none

/-- The value of a number, from its sign and its parts: digits before the point, digits behind it if
    there is a point, and the exponent if there is one. -/
def ofParts? (negative : Bool) (whole : List Char) (fraction : Option (List Char))
    (written : Option Int) : Option Number :=
  let (significand, used) := gather 0 0 whole
  let dropped := whole.length - used
  match fraction, written with
  | none, none =>
    if dropped = 0 then
      if !negative then some (.integer significand)
      else if significand = 0 || 1 <<< 63 < significand then binary? true significand 0 0
      else some (.integer (-(significand : Int)))
    else binary? negative significand (dropped : Int) 0
  | _, _ =>
    let (significand, used) := gather significand 0 (fraction.getD [])
    binary? negative significand ((dropped : Int) - (used : Int)) (written.getD 0)

/-- The digits in front of the point: one zero, or digits that do not start with zero. -/
def isWhole : List Char → Bool
  | [] => false
  | ['0'] => true
  | c :: rest => c != '0' && (c :: rest).all Char.isDigit

/-- Split a leading minus sign off; the first component says whether there is one. -/
def splitMinus : List Char → Bool × List Char
  | '-' :: rest => (true, rest)
  | cs => (false, cs)

/-- Split a point and the digits behind it off. -/
def splitPoint : List Char → Option (List Char) × List Char
  | '.' :: rest =>
    let (ds, rest) := QueueService.Number.splitDigits rest
    (some ds, rest)
  | cs => (none, cs)

/-- The exponent that makes up the rest of a number, if any text is left. Its digits count until it is
    beyond the limit; digits behind that make no difference. -/
def exponent? : List Char → Option (Option Int)
  | [] => some none
  | cs => (QueueService.Number.exponentUpTo? (exponentLimit + 1) cs).map some

/-- The value of a number's text. -/
def parse? (cs : List Char) : Option Number :=
  let (negative, unsigned) := splitMinus cs
  let (whole, afterWhole) := QueueService.Number.splitDigits unsigned
  let (fraction, afterFraction) := splitPoint afterWhole
  if !isWhole whole || fraction = some [] then none
  else (exponent? afterFraction).bind fun written => ofParts? negative whole fraction written

end Number

/-! ## The machine -/

/-- What the machine is in the middle of. Characters gathered so far stand in reverse order. -/
inductive Mode
  /-- Between two tokens. -/
  | between
  /-- Inside a number. -/
  | number (gathered : List Char)
  /-- Inside a word. -/
  | word (gathered : List Char)
  /-- Inside a string. -/
  | text (gathered : List Char)
  /-- Behind a backslash in a string. -/
  | escaped (gathered : List Char)
  /-- Inside a four-digit escape: the first half of a surrogate pair if there was one, the value of
      the digits so far, and the number of digits to come. -/
  | unit (gathered : List Char) (high : Option Nat) (value : Nat) (missing : Nat)
  /-- Behind the first half of a surrogate pair, where a backslash has to follow. -/
  | pair (gathered : List Char) (high : Nat)
  /-- Behind the backslash of the second half, where a `u` has to follow. -/
  | pairEscaped (gathered : List Char) (high : Nat)

/-- Characters that may occur in a number. -/
def isNumberChar (c : Char) : Bool :=
  c.isDigit || c == '-' || c == '+' || c == '.' || c == 'e' || c == 'E'

/-- The characters that may stand between tokens. -/
def isGap (c : Char) : Bool := c == ' ' || c == '\t' || c == '\n' || c == '\r'

/-- The token that a run of letters spells. -/
def wordToken? (letters : List Char) : Option Token :=
  if letters = ['t', 'r', 'u', 'e'] then some (.bool true)
  else if letters = ['f', 'a', 'l', 's', 'e'] then some (.bool false)
  else if letters = ['n', 'u', 'l', 'l'] then some .null
  else none

/-- The token of a single mark. -/
def markToken? (c : Char) : Option Token :=
  if c = '\x7b' then some .openBrace
  else if c = '\x7d' then some .closeBrace
  else if c = '[' then some .openBracket
  else if c = ']' then some .closeBracket
  else if c = ',' then some .comma
  else if c = ':' then some .colon
  else none

/-- The machine between tokens: the tokens that the character completes, and what it begins. -/
def begin? (c : Char) : Option (List Token × Mode) :=
  if isGap c then some ([], .between)
  else if c = '"' then some ([], .text [])
  else if c.isDigit || c == '-' then some ([], .number [c])
  else if c.isLower then some ([], .word [c])
  else (markToken? c).map fun t => ([t], .between)

/-- The character that a one-letter escape stands for. -/
def shortEscape? (c : Char) : Option Char :=
  if c = '"' then some '"'
  else if c = '\\' then some '\\'
  else if c = '/' then some '/'
  else if c = 'b' then some '\x08'
  else if c = 'f' then some '\x0c'
  else if c = 'n' then some '\n'
  else if c = 'r' then some '\r'
  else if c = 't' then some '\t'
  else none

/-- What follows a complete four-digit escape. A first half of a surrogate pair waits for its second
    half; any other surrogate is refused. -/
def closeUnit? (gathered : List Char) (high : Option Nat) (value : Nat) : Option Mode :=
  match high with
  | some h =>
    if 0xDC00 ≤ value && value ≤ 0xDFFF then
      some (.text (Char.ofNat (0x10000 + (h - 0xD800) * 0x400 + (value - 0xDC00)) :: gathered))
    else none
  | none =>
    if 0xD800 ≤ value && value ≤ 0xDBFF then some (.pair gathered value)
    else if 0xDC00 ≤ value && value ≤ 0xDFFF then none
    else some (.text (Char.ofNat value :: gathered))

/-- One character: the tokens that it completes, and what the machine is in afterwards. -/
def step? (mode : Mode) (c : Char) : Option (List Token × Mode) :=
  match mode with
  | .between => begin? c
  | .number gathered =>
    if isNumberChar c then some ([], .number (c :: gathered))
    else
      match Number.parse? gathered.reverse, begin? c with
      | some n, some (tokens, mode) => some (.number n :: tokens, mode)
      | _, _ => none
  | .word gathered =>
    if c.isLower then some ([], .word (c :: gathered))
    else
      match wordToken? gathered.reverse, begin? c with
      | some t, some (tokens, mode) => some (t :: tokens, mode)
      | _, _ => none
  | .text gathered =>
    if c = '"' then some ([.string (String.ofList gathered.reverse)], .between)
    else if c = '\\' then some ([], .escaped gathered)
    else if c.toNat < 0x20 then none
    else some ([], .text (c :: gathered))
  | .escaped gathered =>
    if c = 'u' then some ([], .unit gathered none 0 4)
    else (shortEscape? c).map fun d => ([], .text (d :: gathered))
  | .unit gathered high value missing =>
    match Hex.digit? c with
    | none => none
    | some d =>
      if missing ≤ 1 then (closeUnit? gathered high (16 * value + d)).map fun m => ([], m)
      else some ([], .unit gathered high (16 * value + d) (missing - 1))
  | .pair gathered high => if c = '\\' then some ([], .pairEscaped gathered high) else none
  | .pairEscaped gathered high =>
    if c = 'u' then some ([], .unit gathered (some high) 0 4) else none

/-- The token that the end of the text completes. -/
def finish? : Mode → Option (List Token)
  | .between => some []
  | .number gathered => (Number.parse? gathered.reverse).map fun n => [.number n]
  | .word gathered => (wordToken? gathered.reverse).map fun t => [t]
  | _ => none

/-- Run the machine over a text. The tokens found so far stand in reverse order. -/
def scan? (found : List Token) (mode : Mode) : List Char → Option (List Token)
  | [] => (finish? mode).map fun last => (last.reverse ++ found).reverse
  | c :: rest =>
    match step? mode c with
    | none => none
    | some (tokens, mode) => scan? (tokens.reverse ++ found) mode rest

/-- The tokens of a text. -/
def Token.ofText? (text : String) : Option (List Token) := scan? [] .between text.toList

end QueueService.Json
