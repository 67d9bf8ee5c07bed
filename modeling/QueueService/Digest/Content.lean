import QueueService.Dict.Basic
import QueueService.Digest.Md5
import QueueService.Message.Attribute
import QueueService.Text.Hex

/-!
# Content digests

The digests by which senders and receivers check that a message arrived as it was sent. The digest of a
body is the MD5 of its UTF-8 form. The digest of the attributes is the MD5 of a stream that lists them
in ascending order of their names; in it every text and every value stands behind its length, a number
of four bytes with the highest first.
-/

namespace QueueService.Digest

/-- The digest of some bytes, as lower-case hexadecimal text. -/
def ofBytes (bytes : List UInt8) : String := Hex.encode (Md5.digest bytes)

/-- The digest of a body. -/
def ofBody (body : String) : String := ofBytes (Utf8.encode body)

/-! ## The attribute stream -/

/-- A number as four bytes, highest first; of a number beyond four bytes the lowest four. -/
def lengthBytes (n : Nat) : List UInt8 :=
  [UInt8.ofNat (n >>> 24), UInt8.ofNat (n >>> 16), UInt8.ofNat (n >>> 8), UInt8.ofNat n]

/-- Bytes behind their length. -/
def framed (bytes : List UInt8) : List UInt8 := lengthBytes bytes.length ++ bytes

/-- The part of a stream that is a payload. The elements of a list stand one behind the other. -/
def payloadStream : Payload → List UInt8
  | .text s => framed (Utf8.encode s)
  | .bytes b => framed b
  | .texts l => l.flatMap fun s => framed (Utf8.encode s)
  | .blobs l => l.flatMap framed

/-- The part of a stream that is one attribute. -/
def attributeStream (name : String) (value : AttributeValue) : List UInt8 :=
  framed (Utf8.encode name) ++ framed (Utf8.encode value.dataType) ++ value.payload.tag
    :: payloadStream value.payload

/-- The stream of all attributes, in ascending order of their names. -/
def stream (attributes : Dict String AttributeValue) : List UInt8 :=
  attributes.entries.flatMap fun e => attributeStream e.1 e.2

/-- The digest of the attributes. -/
def ofAttributes (attributes : Dict String AttributeValue) : String := ofBytes (stream attributes)

end QueueService.Digest
