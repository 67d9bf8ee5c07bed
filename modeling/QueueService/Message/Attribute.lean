import QueueService.Text.Utf8

/-!
# Message attributes

The typed values that travel with a message, and the loosely typed values in which senders offer them.
A data type is one of three kinds, alone or followed by a dot and a label of the sender's own.
-/

namespace QueueService

/-! ## Kinds -/

/-- The kinds of message attributes. -/
inductive AttributeKind
  | string
  | binary
  | number
  deriving DecidableEq

namespace AttributeKind

/-- The data type that names a kind. -/
def toText : AttributeKind → String
  | string => "String"
  | binary => "Binary"
  | number => "Number"

/-- Whether a data type is the kind's own, with or without a label. -/
def covers (kind : AttributeKind) (dataType : String) : Bool :=
  dataType == kind.toText || (kind.toText.toList ++ ['.']).isPrefixOf dataType.toList

/-- The kind that covers a data type. -/
def ofDataType? (dataType : String) : Option AttributeKind :=
  [string, binary, number].find? fun kind => kind.covers dataType

/-- Whether values of the kind are offered as text. -/
def usesText : AttributeKind → Bool
  | string => true
  | binary => false
  | number => true

end AttributeKind

/-! ## Typed values -/

/-- What a message attribute holds. -/
inductive Payload
  | text (value : String)
  | bytes (value : List UInt8)
  | texts (values : List String)
  | blobs (values : List (List UInt8))
  deriving DecidableEq

/-- The number of bytes of a single value; lists have none of their own. -/
def Payload.size : Payload → Nat
  | text s => s.utf8ByteSize
  | bytes b => b.length
  | texts _ => 0
  | blobs _ => 0

/-- The number that stands for the form of a value in digests. -/
def Payload.tag : Payload → UInt8
  | text _ => 1
  | bytes _ => 2
  | texts _ => 3
  | blobs _ => 4

/-- A data type and a value of it. -/
structure AttributeValue where
  dataType : String
  payload : Payload
  deriving DecidableEq

/-! ## Offered values -/

/-- A value as a sender offers it; any of its fields may be filled in. -/
structure OfferedValue where
  dataType : String
  text? : Option String
  base64? : Option String
  texts : List String
  blobs : List String
  deriving DecidableEq

/-- A name and the value offered for it, if there is one. -/
structure OfferedAttribute where
  name : String
  value? : Option OfferedValue
  deriving DecidableEq

end QueueService
