import QueueService.Message.Basic
import QueueService.Queue.Basic

/-!
# The store

Queues and the messages they hold, in memory. Times are milliseconds of the epoch. An operation that
fails yields no new store, so a failure changes nothing.

A message is held from its send until it is deleted, its queue is purged or deleted, or a receive finds
it expired. It can be received while it is visible: not before its delay is over, and not while an
earlier receive hides it.

All queues stand in one map, in the order of their accounts and then of their names. A store has one
region, so an account and a name tell its queues apart. A map of accounts, each with a map of its
queues, is no different to its users (`Store.record_nested`). There an account comes into being with
its first queue; a queue that is refused because its name is taken finds the account there already. An
account whose queues have all been deleted is left empty, and answers as one that is not there.

## Contents
- `HeldMessage`, `HeldQueue`, `Store`: the contents.
- Operations on queues: `lookup?`, `create`, `list`, `delete`.
- Operations on messages: `send`, `receive`, `deleteMessage`, `purge`.
-/

namespace QueueService

/-! ## Contents -/

/-- Why the store fails. -/
inductive StoreError
  | queueNotFound (name : String)
  | queueExists (name : String)
  | handleNotFound (handle : String)
  /-- The storage behind the store failed, with a text of its own. -/
  | backend (text : String)
  deriving DecidableEq

/-- The wording of a store's failure. -/
def StoreError.message : StoreError → String
  | queueNotFound name => "Queue not found: " ++ name
  | queueExists name => "Queue already exists: " ++ name
  | handleNotFound handle => "Receipt handle not found: " ++ handle
  | backend text => "Storage backend failure: " ++ text

/-- A message with the times from which it is visible and from which it is expired. -/
structure HeldMessage where
  message : Message
  visibleAt : Int
  expiresAt : Int
  deriving DecidableEq

/-- A queue with its messages in the order in which they were sent. -/
structure HeldQueue where
  queue : Queue
  messages : List HeldMessage
  deriving DecidableEq

/-- All queues of all accounts. -/
structure Store where
  queues : Dict QueueId HeldQueue
  deriving DecidableEq

namespace Store

/-- The store without queues. -/
def empty : Store := ⟨Dict.empty⟩

instance : Inhabited Store := ⟨empty⟩

/-- What the store holds of a queue. -/
def held? (s : Store) (id : QueueId) : Option HeldQueue := s.queues.find? id

/-- Replace what the store holds of a queue. -/
def setHeld (s : Store) (id : QueueId) (q : HeldQueue) : Store := ⟨s.queues.insert id q⟩

/-- Do something with a queue that has to exist. -/
def withQueue {α : Type} (s : Store) (id : QueueId)
    (act : HeldQueue → Except StoreError (α × HeldQueue)) : Except StoreError (α × Store) :=
  match s.held? id with
  | none => .error (.queueNotFound id.name)
  | some q =>
    match act q with
    | .error e => .error e
    | .ok (a, q') => .ok (a, s.setHeld id q')

/-! ## Queues -/

/-- The record of a queue, if there is one. -/
def lookup? (s : Store) (id : QueueId) : Option Queue := (s.held? id).map (·.queue)

/-- Make a queue. Its name must not be taken. -/
def create (s : Store) (now : Int) (id : QueueId) (attributes : QueueAttributes) :
    Except StoreError (Queue × Store) :=
  match s.held? id with
  | some _ => .error (.queueExists id.name)
  | none =>
    let queue := Queue.new id attributes now
    .ok (queue, s.setHeld id { queue, messages := [] })

/-- The queues of an account whose names begin with a given text, in ascending order of their names.
    They stand side by side, the first of them being the first that is not below the text itself. -/
def list (s : Store) (account start : String) : List Queue :=
  let first : QueueId := { account, name := start }
  let fromFirst := s.queues.entries.dropWhile fun e => compare e.1 first == .lt
  let chosen := fromFirst.takeWhile fun e =>
    e.1.account == account && start.toList.isPrefixOf e.1.name.toList
  chosen.map fun e => e.2.queue

/-- Delete a queue and whatever it holds. -/
def delete (s : Store) (id : QueueId) : Except StoreError (Unit × Store) :=
  match s.held? id with
  | none => .error (.queueNotFound id.name)
  | some _ => .ok ((), ⟨s.queues.erase id⟩)

/-! ## Sending -/

/-- When a message counts as sent: when it says so itself, or else at the clock reading. -/
def sentAt (m : Message) (now : Int) : Int :=
  ((m.system? .sentTimestamp).bind (Integer.signed? 64)).getD now

/-- Hold a message. Its delay and its retention are its own, or else none and the queue's. -/
def hold (now : Int) (m : Message) (q : HeldQueue) : HeldMessage :=
  let sent := sentAt m now
  let delay := (m.internal? .delaySeconds).getD 0
  let retention := (m.internal? .messageRetentionPeriod).getD
    (q.queue.attributes.messageRetentionPeriod : Int)
  { message := m, visibleAt := sent + delay * 1000, expiresAt := sent + retention * 1000 }

/-- What a send does with a queue: it puts the message at the end. -/
def sending (now : Int) (m : Message) (q : HeldQueue) : Except StoreError (Unit × HeldQueue) :=
  .ok ((), { q with messages := q.messages ++ [hold now m q] })

/-- Put a message at the end of a queue. -/
def send (s : Store) (now : Int) (id : QueueId) (m : Message) : Except StoreError (Unit × Store) :=
  s.withQueue id (sending now m)

/-! ## Receiving -/

/-- A message as it is after one more receive: its two counts go up by one, the time of its first
    receive is noted, and it has a new handle. -/
def received (m : Message) (now : Int) (handle : String) : Message :=
  let count := ((m.system? .approximateReceiveCount).bind (Integer.unsigned? 64)).getD 0 + 1
  let m := m.setSystem .approximateReceiveCount (toString count)
  let m := m.setInternal .localReceiveCount ((m.internal? .localReceiveCount).getD 0 + 1)
  let m :=
    if (m.system? .approximateFirstReceiveTimestamp).isNone then
      m.setSystem .approximateFirstReceiveTimestamp (toString now)
    else m
  { m with receiptHandle? := some handle }

/-- Receive up to `max` of the visible messages in order, and hide them until `hidden`. The `k`-th
    message received gets the `k`-th handle, counting from `next`. -/
def deliver (now hidden : Int) (handles : Nat → String) (next max : Nat) :
    List HeldMessage → List Message × List HeldMessage
  | [] => ([], [])
  | h :: rest =>
    match max with
    | 0 => ([], h :: rest)
    | max' + 1 =>
      if h.visibleAt ≤ now then
        let m := received h.message now (handles next)
        let (given, kept) := deliver now hidden handles (next + 1) max' rest
        (m :: given, { h with message := m, visibleAt := hidden } :: kept)
      else
        let (given, kept) := deliver now hidden handles next (max' + 1) rest
        (given, h :: kept)

/-- What a receive does with a queue: it drops the expired messages, and hides those that it hands
    out. -/
def receiving (now : Int) (handles : Nat → String) (max : Nat) (q : HeldQueue) :
    Except StoreError (List Message × HeldQueue) :=
  let live := q.messages.filter fun h => now < h.expiresAt
  let hidden := now + (q.queue.attributes.visibilityTimeout : Int) * 1000
  let (given, kept) := deliver now hidden handles 0 max live
  .ok (given, { q with messages := kept })

/-- Drop the expired messages of a queue and receive up to `max` of the visible ones, which stay in
    the queue but are hidden for its visibility timeout. -/
def receive (s : Store) (now : Int) (handles : Nat → String) (id : QueueId) (max : Nat) :
    Except StoreError (List Message × Store) :=
  s.withQueue id (receiving now handles max)

/-! ## Deleting -/

/-- What a deletion by handle does with a queue: it takes out the first message with the handle. -/
def deleting (handle : String) (q : HeldQueue) : Except StoreError (Unit × HeldQueue) :=
  match q.messages.findIdx? fun h => h.message.receiptHandle? == some handle with
  | none => .error (.handleNotFound handle)
  | some i => .ok ((), { q with messages := q.messages.eraseIdx i })

/-- Delete the first message of a queue that has a given handle. -/
def deleteMessage (s : Store) (id : QueueId) (handle : String) :
    Except StoreError (Unit × Store) :=
  s.withQueue id (deleting handle)

/-- What a purge does with a queue: it takes all messages out. -/
def purging (q : HeldQueue) : Except StoreError (Unit × HeldQueue) :=
  .ok ((), { q with messages := [] })

/-- Delete all messages of a queue. -/
def purge (s : Store) (id : QueueId) : Except StoreError (Unit × Store) := s.withQueue id purging

end Store

end QueueService
