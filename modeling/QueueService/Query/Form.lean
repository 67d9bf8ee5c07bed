import QueueService.Text.Percent
import QueueService.Text.Utf8

/-!
# Forms

Parameters written as pieces between ampersands, each piece a name, an equals sign and a value. In both a
plus stands for a space and bytes may be percent-encoded. A piece without an equals sign has an empty
value; empty pieces do not count.

## Contents
- `pieces`, `decode`: taking a form apart.
- `misfit?`: the first piece that is no text.
- `pairs`: the names and values.
-/

namespace QueueService.Form

/-- The bytes between the ampersands of a form. -/
def pieces (form : List UInt8) : List (List UInt8) := form.splitOn 0x26

/-- The bytes that a written name or value stands for. -/
def decode (written : List UInt8) : List UInt8 :=
  Percent.decode (written.map fun b => if b = 0x2B then 0x20 else b)

/-- The part of a piece before its first equals sign. -/
def writtenName (piece : List UInt8) : List UInt8 := piece.takeWhile (· != 0x3D)

/-- The part of a piece behind its first equals sign. -/
def writtenValue (piece : List UInt8) : List UInt8 := (piece.dropWhile (· != 0x3D)).drop 1

/-- Whether a piece stands for well-formed UTF-8. -/
def isText (piece : List UInt8) : Bool := (Utf8.decode? (decode piece)).isSome

/-- The name under which a piece is reported that is no text. A plus in it is left as it is. -/
def reportedName (piece : List UInt8) : String :=
  Utf8.decodeLossy (Percent.decode (writtenName piece))

/-- The reported name of the first piece that is no text. -/
def misfit? (form : List UInt8) : Option String :=
  ((pieces form).find? fun piece => !isText piece).map reportedName

/-- The text of a written name or value. -/
def text (written : List UInt8) : String := Utf8.decodeLossy (decode written)

/-- The names and values of a form, in order. -/
def pairs (form : List UInt8) : List (String × String) :=
  ((pieces form).filter fun piece => !piece.isEmpty).map fun piece =>
    (text (writtenName piece), text (writtenValue piece))

end QueueService.Form
