import QueueService.Message.Outbound
import QueueService.Service.Basic

/-!
# Operations on messages

Sending one message or a batch of them, receiving, and deleting what was received.
-/

namespace QueueService

/-- What the sender of a message learns of it. -/
structure Receipt where
  messageId : String
  bodyDigest : String
  attributesDigest? : Option String
  deriving DecidableEq

/-- The receipt of a message. -/
def Receipt.ofMessage (m : Message) : Receipt :=
  { messageId := m.id, bodyDigest := m.bodyDigest, attributesDigest? := m.attributesDigest? }

/-- A message of a batch, with an identifier of the sender's own. -/
structure BatchEntry where
  id : String
  message : OutboundMessage
  deriving DecidableEq

/-- What became of a batch, entry by entry. -/
structure BatchOutcome where
  successful : List (String × Receipt)
  failed : List (String × ServiceError)
  deriving DecidableEq

namespace Service

/-! ## Sending -/

/-- Send a message to a queue that has been looked up. -/
def sendTo (limits : Limits) (caller : Caller) (occasion : Occasion) (queue : Queue)
    (m : OutboundMessage) : Operation Receipt := do
  let now := occasion.clock 0
  let message ← Operation.ofExcept
    (m.prepare limits caller.account queue now (occasion.messageIds 0))
  Operation.ofAction (Backend.sendMessage now queue.id message)
  return Receipt.ofMessage message

/-- Send a message. -/
def sendMessage (desk : Desk) (caller : Caller) (occasion : Occasion) (locator : String)
    (m : OutboundMessage) : Operation Receipt := do
  let queue ← ownedQueue desk caller locator
  sendTo desk.limits caller occasion queue m

/-! ## Sending a batch -/

/-- The greatest number of entries of a batch. -/
def maxBatchEntries : Nat := 10

/-- Check the identifiers of a batch in order: each has to be well formed and new. -/
def checkEntryIds (seen : List String) : List String → Except ServiceError Unit
  | [] => .ok ()
  | id :: rest =>
    if !Alphabet.isBatchEntryId id then .error .entryIdInvalid
    else if seen.contains id then .error (.entryIdRepeated id)
    else checkEntryIds (id :: seen) rest

/-- Check the shape of a batch. -/
def checkBatch (ids : List String) : Except ServiceError Unit :=
  if ids.isEmpty then .error .batchEmpty
  else if maxBatchEntries < ids.length then .error (.batchTooLong ids.length maxBatchEntries)
  else checkEntryIds [] ids

/-- Send the entries of a batch one after the other; the failure of one does not touch the others.
    The `k`-th entry draws from the occasion at `k`. -/
def sendEntries (limits : Limits) (caller : Caller) (occasion : Occasion) (queue : Queue) (k : Nat) :
    List BatchEntry → StateM Backend BatchOutcome
  | [] => return { successful := [], failed := [] }
  | entry :: rest => do
    let sent ← (sendTo limits caller (occasion.from k) queue entry.message).run
    let outcome ← sendEntries limits caller occasion queue (k + 1) rest
    match sent with
    | .ok receipt =>
      return { outcome with successful := (entry.id, receipt) :: outcome.successful }
    | .error e => return { outcome with failed := (entry.id, e) :: outcome.failed }

/-- Send a batch. Its shape and its queue are checked for all entries together. -/
def sendBatch (desk : Desk) (caller : Caller) (occasion : Occasion) (locator : String)
    (entries : List BatchEntry) : Operation BatchOutcome := do
  Operation.ofExcept (checkBatch (entries.map (·.id)))
  let queue ← ownedQueue desk caller locator
  ExceptT.lift (sendEntries desk.limits caller occasion queue 0 entries)

/-! ## Receiving and deleting -/

/-- The greatest number of messages of one receive. -/
def maxReceiveMessages : Nat := 10

/-- The number of messages to receive: as many as asked for within bounds, or one. -/
def receiveLimit : Option Int → Except ServiceError Nat
  | none => .ok 1
  | some n =>
    if 1 ≤ n && n ≤ (maxReceiveMessages : Int) then .ok n.toNat
    else .error (.receiveCount n maxReceiveMessages)

/-- Receive messages, without what the store notes on them for itself. -/
def receiveMessages (desk : Desk) (caller : Caller) (occasion : Occasion) (locator : String)
    (asked : Option Int) : Operation (List Message) := do
  let max ← Operation.ofExcept (receiveLimit asked)
  let queue ← ownedQueue desk caller locator
  let messages ← Operation.ofAction
    (Backend.receiveMessages (occasion.clock 0) occasion.handles queue.id max)
  return messages.map Message.stripInternal

/-- Delete a message by the handle of its latest receive. -/
def deleteMessage (desk : Desk) (caller : Caller) (locator handle : String) : Operation Unit := do
  let queue ← ownedQueue desk caller locator
  Operation.ofAction (Backend.deleteMessage queue.id handle)

end Service

end QueueService
