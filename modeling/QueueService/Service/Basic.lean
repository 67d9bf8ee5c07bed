import QueueService.AddressBook
import QueueService.Error.Service
import QueueService.Store.Backend

/-!
# The service

What the operations of the service have in common: who calls, what the service knows, what it takes
from the world during a call, and the steps that several operations share.

## Contents
- `Caller`, `Desk`, `Occasion`: the givens of a call.
- `Operation`: what an operation does.
- `ownedQueue`: the queue that a locator names, if it exists and is the caller's.
-/

namespace QueueService

/-- Who calls. -/
structure Caller where
  account : String
  region : String
  /-- Whether the caller may see what lies behind a failure of the service itself. -/
  privileged : Bool
  deriving DecidableEq

/-- What the service knows when it is called. -/
structure Desk where
  limits : Limits
  addresses : AddressBook
  deriving DecidableEq

/-- What a call takes from the world: readings of the clock in milliseconds, and fresh identifiers for
    messages and receipts, each in the order in which they are drawn. -/
structure Occasion where
  clock : Nat → Int
  messageIds : Nat → String
  handles : Nat → String

/-- The occasion from its `k`-th drawing on. -/
def Occasion.from (o : Occasion) (k : Nat) : Occasion :=
  { clock := fun i => o.clock (k + i), messageIds := fun i => o.messageIds (k + i),
    handles := fun i => o.handles (k + i) }

/-- What an operation does: it answers or fails, and leaves a backend behind. -/
abbrev Operation (α : Type) : Type := ExceptT ServiceError (StateM Backend) α

namespace Operation

/-- An operation that consists of one call of the backend. -/
def ofAction {α : Type} (act : Backend.Action α) : Operation α :=
  ExceptT.mk ((Except.mapError ServiceError.store) <$> act.run)

/-- An operation that consults nothing. -/
def ofExcept {α : Type} (r : Except ServiceError α) : Operation α := ExceptT.mk (pure r)

/-- Call the backend and keep its answer, even if that is a failure. -/
def attempt {α : Type} (act : Backend.Action α) : Operation (Except StoreError α) :=
  ExceptT.mk (Except.ok <$> act.run)

/-- Run an operation. -/
def runOn {α : Type} (op : Operation α) (b : Backend) : Except ServiceError α × Backend :=
  (ExceptT.run op).run b

end Operation

namespace Service

/-- The queue that a locator names. It has to be the caller's, and to exist. -/
def ownedQueue (desk : Desk) (caller : Caller) (locator : String) : Operation Queue :=
  match desk.addresses.resolve? locator with
  | none => throw (.addressInvalid locator)
  | some id =>
    if id.account != caller.account then throw (.notTheOwner locator)
    else do
      match ← Operation.ofAction (Backend.lookupQueue id) with
      | some queue => return queue
      | none => throw .queueMissing

end Service

end QueueService
