import QueueService.Text.Percent

/-!
# Paths of addresses

The path of an address is a list of segments between slashes. Some characters are percent-encoded in
it, and segments that are dots walk through it: one dot stays, two dots go back by one segment, unless
that is the letter of a drive. A percent-encoded dot counts as a dot.
-/

namespace QueueService.Url

/-! ## Encoding -/

/-- Control characters and characters beyond ASCII. -/
def isControl (c : Char) : Bool := c.toNat < 0x20 || 0x7E < c.toNat

/-- Characters that are percent-encoded in the segments of a path. -/
def isEncodedInPath (c : Char) : Bool :=
  isControl c || c == ' ' || c == '"' || c == '#' || c == '<' || c == '>' || c == '?' || c == '\x60'
    || c == '\x7b' || c == '\x7d'

/-- A text in which the characters that satisfy `p` are percent-encoded, byte by byte. -/
def encode (p : Char → Bool) (cs : List Char) : List Char :=
  cs.flatMap fun c => if p c then (String.utf8EncodeChar c).flatMap Percent.encodeByte else [c]

/-! ## Dots -/

/-- Take one dot, plain or encoded, from the front. -/
def dropDot? : List Char → Option (List Char)
  | '.' :: rest => some rest
  | '%' :: '2' :: e :: rest => if e = 'e' ∨ e = 'E' then some rest else none
  | _ => none

/-- Whether a segment is one dot. -/
def isSingleDot (segment : List Char) : Bool := dropDot? segment == some []

/-- Whether a segment is two dots. -/
def isDoubleDot (segment : List Char) : Bool := (dropDot? segment).bind dropDot? == some []

/-! ## Drives -/

/-- Whether a segment is the letter of a drive and its mark. -/
def isDrive (segment : List Char) : Bool :=
  match segment with
  | [letter, mark] => letter.isAlpha && (mark == ':' || mark == '|')
  | _ => false

/-- Whether a segment is a drive, or begins with one and a backslash. -/
def opensWithDrive (segment : List Char) : Bool :=
  isDrive (segment.take 2) && (segment.drop 2).head?.all (· == '\\')

/-! ## Segments -/

/-- Whether a character is a slash. Backslashes are slashes where `backslashes` says so. -/
def isSlash (backslashes : Bool) (c : Char) : Bool := c == '/' || (backslashes && c == '\\')

/-- Leave the last segment of a path in reverse order. Drives are not left. -/
def back : List (List Char) → List (List Char)
  | [] => []
  | segment :: passed => if opensWithDrive segment then segment :: passed else passed

/-- Pass a segment. The segments passed so far stand in reverse order. Dots at the end of a path, where
    nothing is ahead, leave an empty segment behind. -/
def pass (passed : List (List Char)) (segment : List Char) (ahead : List (List Char)) :
    List (List Char) :=
  let behind := if ahead.isEmpty then [[]] else []
  if isDoubleDot segment then behind ++ back passed
  else if isSingleDot segment then behind ++ passed
  else segment :: passed

/-- Pass segments one after the other. -/
def walk (passed : List (List Char)) : List (List Char) → List (List Char)
  | [] => passed.reverse
  | segment :: ahead => walk (pass passed segment ahead) ahead

/-- The text of a path. -/
def textOf (segments : List (List Char)) : List Char := segments.flatMap fun s => '/' :: s

/-- The path that a text spells whose first slash is left out. -/
def pathOf (backslashes : Bool) (cs : List Char) : List Char :=
  textOf (walk [] ((cs.splitOnP (isSlash backslashes)).map (encode isEncodedInPath)))

end QueueService.Url
