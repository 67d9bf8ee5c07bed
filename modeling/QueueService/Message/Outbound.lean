import QueueService.Digest.Content
import QueueService.Error.Service
import QueueService.Message.Basic

/-!
# Outbound messages

Making a message ready to be stored: its delay, its attributes, its body and its size are checked in
this order, and what passes gets its digests and its bookkeeping.
-/

namespace QueueService

/-- A message as a sender offers it. -/
structure OutboundMessage where
  body? : Option String
  /-- Seconds before the message can be received, in place of the queue's own setting. -/
  delay? : Option String
  attributes : List OfferedAttribute
  deriving DecidableEq

namespace OutboundMessage

/-- The delay of a message for a queue: its own, which has to be a number in range, or the queue's. -/
def delay (limits : Limits) (queue : Queue) (m : OutboundMessage) : Except ServiceError Int :=
  match m.delay? with
  | none => .ok (queue.attributes.delaySeconds : Int)
  | some text =>
    match Integer.signed? 64 (Blank.trim text) with
    | none => .error (.delayNotANumber text)
    | some n =>
      if 0 ≤ n && n ≤ (limits.delaySeconds : Int) then .ok n
      else .error (.delayOutOfRange limits.delaySeconds)

/-- The body of a message, which has to be there and drawn from its alphabet. -/
def checkedBody (m : OutboundMessage) : Except ServiceError String :=
  match m.body?.filter (!·.isEmpty) with
  | none => .error .bodyMissing
  | some body =>
    match Alphabet.firstNonBodyChar? body with
    | some c => .error (.bodyCharacter c)
    | none => .ok body

/-- The accepted attributes by name. -/
def attributeDict (accepted : List (String × AcceptedAttribute)) : Dict String AttributeValue :=
  Dict.ofList (accepted.map fun a => (a.1, a.2.value))

/-- The bytes of a body and its attributes. -/
def size (body : String) (accepted : List (String × AcceptedAttribute)) : Nat :=
  accepted.foldr (fun a rest => a.2.size + rest) body.utf8ByteSize

/-- The bookkeeping of a new message. -/
def bookkeeping (sender : String) (queue : Queue) (delay now : Int) : Dict String String :=
  Dict.ofList
    [(SystemAttribute.approximateReceiveCount.key, "0"),
      (SystemAttribute.senderId.key, sender),
      (SystemAttribute.sentTimestamp.key, toString now),
      (InternalAttribute.localReceiveCount.key, "0"),
      (InternalAttribute.delaySeconds.key, toString delay),
      (InternalAttribute.messageRetentionPeriod.key,
        toString queue.attributes.messageRetentionPeriod)]

/-- Check a message for a queue and make it ready to be stored. -/
def prepare (limits : Limits) (sender : String) (queue : Queue) (now : Int) (id : String)
    (m : OutboundMessage) : Except ServiceError Message := do
  let delay ← m.delay limits queue
  let accepted ← (OfferedAttribute.acceptAll limits [] m.attributes).mapError .messageAttribute
  let body ← m.checkedBody
  if queue.attributes.maximumMessageSize < size body accepted then
    throw (.messageTooLong queue.attributes.maximumMessageSize)
  let attributes := attributeDict accepted
  return {
    id
    receiptHandle? := none
    body
    bodyDigest := Digest.ofBody body
    attributesDigest? := if attributes.isEmpty then none else some (Digest.ofAttributes attributes)
    attributes
    bookkeeping := bookkeeping sender queue delay now }

end OutboundMessage

end QueueService
