import QueueService.Text.Hex

/-!
# Random identifiers

The written form of an identifier made of sixteen random bytes: their hexadecimal digits in five groups.
Six bits are not random but say what kind of identifier it is.
-/

namespace QueueService.Identifier

/-- Set the bits that mark an identifier as a random one. -/
def mark (bytes : List UInt8) : List UInt8 :=
  (bytes.modify 6 fun b => b % 16 + 0x40).modify 8 fun b => b % 64 + 0x80

/-- Groups of the given sizes, and what is left. -/
def groups : List Nat → List Char → List (List Char)
  | [], digits => [digits]
  | n :: sizes, digits => digits.take n :: groups sizes (digits.drop n)

/-- The identifier made of sixteen bytes. -/
def ofBytes (bytes : List UInt8) : String :=
  String.ofList (['-'].intercalate (groups [8, 4, 4, 4] (Hex.encode (mark bytes)).toList))

end QueueService.Identifier
