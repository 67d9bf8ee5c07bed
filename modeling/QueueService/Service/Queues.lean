import QueueService.Service.Basic

/-!
# Operations on queues

Creating, finding, listing, describing, purging and deleting queues.

## Contents
- `queueName`, `queueAttributes`: checking a request to create a queue.
- `createQueue`: creation that may be repeated, also while others create the same queue.
- `queueUrl`, `listQueues`, `describeQueue`, `purgeQueue`, `deleteQueue`.
-/

namespace QueueService.Service

/-! ## Checking a request -/

/-- The name that a request gives a queue. -/
def queueName (limits : Limits) : Option String → Except ServiceError String
  | none => .error .queueNameMissing
  | some name =>
    if name.isEmpty then .error .queueNameEmpty
    else if Alphabet.isQueueName limits.queueNameLength name then .ok name
    else .error (.queueNameInvalid limits.queueNameLength)

/-- The queue attribute with a given name. -/
def attributeNamed (name : String) : Except ServiceError QueueAttribute :=
  match QueueAttribute.ofText? name with
  | some a => .ok a
  | none => .error .attributeUnknown

/-- The range of an attribute that is a number. -/
def numericRange? (limits : Limits) : QueueAttribute → Option (Nat × Nat)
  | .delaySeconds => some (0, limits.delaySeconds)
  | .maximumMessageSize => some (1024, limits.maximumMessageSize)
  | .messageRetentionPeriod => some (60, limits.messageRetentionPeriod)
  | .receiveMessageWaitTimeSeconds => some (0, limits.receiveMessageWaitTimeSeconds)
  | .visibilityTimeout => some (0, limits.visibilityTimeout)
  | _ => none

/-- Check that a text is a signed integer of 64 bits in a range. -/
def checkNumber (name value : String) (least greatest : Nat) : Except ServiceError Unit :=
  match Integer.signed? 64 value with
  | none => .error (.attributeNotANumber name)
  | some n =>
    if n < (least : Int) || (greatest : Int) < n then
      .error (.attributeOutOfRange name least greatest)
    else .ok ()

/-- Check a redrive policy and bring it into its canonical form. Its target has to exist. -/
def redrivePolicy (limits : Limits) (caller : Caller) (document : String) :
    Operation RedrivePolicy := do
  let policy ← Operation.ofExcept
    ((RedrivePolicy.parse limits caller.account caller.region document).mapError .redrive)
  match ← Operation.ofAction (Backend.lookupQueue policy.target) with
  | some _ => return policy
  | none => throw (.redrive (.invalid document .targetMissing))

/-- Set one attribute as a request asks for it. Numbers are kept as they were written; an empty policy
    and attributes that cannot be set are passed over. -/
def setAttribute (limits : Limits) (caller : Caller) (attributes : QueueAttributes)
    (name value : String) : Operation QueueAttributes := do
  let a ← Operation.ofExcept (attributeNamed name)
  match numericRange? limits a with
  | some (least, greatest) => do
    Operation.ofExcept (checkNumber name value least greatest)
    return attributes.insert a value
  | none =>
    if a = .policy && !value.isEmpty then do
      Operation.ofExcept ((Policy.check value).mapError .policy)
      return attributes.insert .policy value
    else if a = .redrivePolicy && !value.isEmpty then do
      let policy ← redrivePolicy limits caller value
      return attributes.insert .redrivePolicy (policy.toDocument caller.region)
    else return attributes

/-- The given attributes with others set in order as a request asks for them. -/
def setAttributes (limits : Limits) (caller : Caller) (attributes : QueueAttributes) :
    List (String × String) → Operation QueueAttributes
  | [] => return attributes
  | (name, value) :: rest => do
    let attributes ← setAttribute limits caller attributes name value
    setAttributes limits caller attributes rest

/-- The attributes of a new queue: the standard ones, with others set as a request asks for them. -/
def queueAttributes (limits : Limits) (caller : Caller) (supplied : List (String × String)) :
    Operation QueueAttributes :=
  setAttributes limits caller .standard supplied

/-! ## Creating -/

/-- The queue that stands in the way of a new one: one that was there before, or one that somebody else
    created just before. If none does, the new one has been made. -/
def existingOrCreate (now : Int) (id : QueueId) (attributes : QueueAttributes) :
    Operation (Option Queue) := do
  match ← Operation.ofAction (Backend.lookupQueue id) with
  | some queue => return some queue
  | none =>
    match ← Operation.attempt (Backend.createQueue now id attributes) with
    | .ok _ => return none
    | .error (.queueExists _) => Operation.ofAction (Backend.lookupQueue id)
    | .error e => throw (.store e)

/-- Create a queue, or find one that was created with comparable attributes equal to those asked for.
    Yields the address of the queue. -/
def createQueue (desk : Desk) (caller : Caller) (occasion : Occasion) (name? : Option String)
    (supplied : List (String × String)) : Operation String := do
  let name ← Operation.ofExcept (queueName desk.limits name?)
  let attributes ← queueAttributes desk.limits caller supplied
  let id : QueueId := { account := caller.account, name }
  match ← existingOrCreate (occasion.clock 0) id attributes with
  | some existing =>
    if existing.attributes.comparable = attributes.comparable then
      return desk.addresses.url id
    else throw (.queueConflict name)
  | none => return desk.addresses.url id

/-! ## Finding -/

/-- The address of the caller's queue with a given name. -/
def queueUrl (desk : Desk) (caller : Caller) (name? : Option String) : Operation String := do
  let name ← Operation.ofExcept (queueName desk.limits name?)
  match ← Operation.ofAction
      (Backend.lookupQueue { account := caller.account, name }) with
  | some queue => return desk.addresses.url queue.id
  | none => throw .queueMissing

/-- The addresses of the caller's queues whose names begin with a given text. -/
def listQueues (desk : Desk) (caller : Caller) (start? : Option String) :
    Operation (List String) := do
  let queues ← Operation.ofAction (Backend.listQueues caller.account (start?.getD ""))
  return queues.map fun queue => desk.addresses.url queue.id

/-- Those attributes of a queue that are asked for by name, or all. -/
def describeQueue (desk : Desk) (caller : Caller) (locator : String) (names : List String) :
    Operation (Dict QueueAttribute String) := do
  let wanted ← Operation.ofExcept (names.mapM attributeNamed)
  let queue ← ownedQueue desk caller locator
  return (queue.describe caller.region).filter fun a _ =>
    wanted.contains .all || wanted.contains a

/-! ## Emptying and deleting -/

/-- Delete all messages of a queue. -/
def purgeQueue (desk : Desk) (caller : Caller) (locator : String) : Operation Unit := do
  let queue ← ownedQueue desk caller locator
  Operation.ofAction (Backend.purge queue.id)

/-- Delete a queue, its messages first. -/
def deleteQueue (desk : Desk) (caller : Caller) (locator : String) : Operation Unit := do
  let queue ← ownedQueue desk caller locator
  Operation.ofAction (Backend.purge queue.id)
  Operation.ofAction (Backend.deleteQueue queue.id)

end QueueService.Service
