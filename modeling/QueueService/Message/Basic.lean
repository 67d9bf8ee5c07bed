import QueueService.Dict.Basic
import QueueService.Message.Attribute
import QueueService.Text.Integer

/-!
# Messages

A message as the store keeps it. Beside the sender's own attributes it carries system attributes, which
receivers see, and internal attributes, with which the store keeps its books and which are taken off
before a message leaves the service. Both are texts under reserved keys.
-/

namespace QueueService

/-! ## Keys -/

/-- The attributes that the service adds for receivers. -/
inductive SystemAttribute
  | approximateFirstReceiveTimestamp
  | approximateReceiveCount
  | senderId
  | sentTimestamp
  deriving DecidableEq

/-- The key of a system attribute. -/
def SystemAttribute.key : SystemAttribute → String
  | approximateFirstReceiveTimestamp => "ApproximateFirstReceiveTimestamp"
  | approximateReceiveCount => "ApproximateReceiveCount"
  | senderId => "SenderId"
  | sentTimestamp => "SentTimestamp"

/-- The attributes that the store keeps for itself. -/
inductive InternalAttribute
  | localReceiveCount
  | delaySeconds
  | messageRetentionPeriod
  deriving DecidableEq

/-- The key of an internal attribute. -/
def InternalAttribute.key : InternalAttribute → String
  | localReceiveCount => "InternalLocalReceiveCount"
  | delaySeconds => "InternalDelaySeconds"
  | messageRetentionPeriod => "InternalMessageRetentionPeriod"

/-- Whether a key is that of an internal attribute. -/
def InternalAttribute.isKey (key : String) : Bool :=
  [localReceiveCount, delaySeconds, messageRetentionPeriod].any fun a => a.key == key

theorem InternalAttribute.isKey_key (a : InternalAttribute) : isKey a.key = true := by
  cases a <;> decide

theorem InternalAttribute.isKey_systemKey (a : SystemAttribute) : isKey a.key = false := by
  cases a <;> decide

/-! ## Messages -/

/-- A message with its digests and attributes. The handle is the one of the latest receive. -/
structure Message where
  id : String
  receiptHandle? : Option String
  body : String
  bodyDigest : String
  attributesDigest? : Option String
  attributes : Dict String AttributeValue
  bookkeeping : Dict String String
  deriving DecidableEq

namespace Message

/-- The text of a system attribute. -/
def system? (m : Message) (a : SystemAttribute) : Option String := m.bookkeeping.find? a.key

/-- Give a system attribute a text. -/
def setSystem (m : Message) (a : SystemAttribute) (value : String) : Message :=
  { m with bookkeeping := m.bookkeeping.insert a.key value }

/-- The number of an internal attribute; a text that is not a signed integer of 64 bits has none. -/
def internal? (m : Message) (a : InternalAttribute) : Option Int :=
  (m.bookkeeping.find? a.key).bind (Integer.signed? 64)

/-- Give an internal attribute a number. -/
def setInternal (m : Message) (a : InternalAttribute) (value : Int) : Message :=
  { m with bookkeeping := m.bookkeeping.insert a.key (toString value) }

/-- The message as receivers see it, without internal attributes. -/
def stripInternal (m : Message) : Message :=
  { m with bookkeeping := m.bookkeeping.filter fun key _ => !InternalAttribute.isKey key }

end Message

end QueueService
