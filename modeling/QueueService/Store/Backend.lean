import QueueService.Store.Basic

/-!
# The store behind a faulty line

The store as the service calls it. Calls may fail, or miss a queue, without reaching the store; which
calls do so is laid down beforehand, for each kind of call in the order in which calls of that kind are
made. A call without a fault is answered by the store.

## Contents
- `Call`, `Fault`, `FaultPlan`: what can go wrong.
- `Backend`: a store and the faults still to come.
- `Backend.call`: one call; the calls of each kind.
-/

namespace QueueService

/-- The kinds of calls. -/
inductive Call
  | lookupQueue
  | createQueue
  | listQueues
  | deleteQueue
  | sendMessage
  | receiveMessages
  | deleteMessage
  | purge
  deriving DecidableEq

/-- What answers a call in place of the store. -/
inductive Fault
  /-- A queue that is looked up is not found. Other calls are not touched by it. -/
  | miss
  /-- The call fails. -/
  | failure (error : StoreError)
  deriving DecidableEq

/-- For each kind of call the faults of the calls to come; `none` is a call without a fault. -/
def FaultPlan : Type := Call → List (Option Fault)

namespace FaultPlan

/-- The plan without faults. -/
def none : FaultPlan := fun _ => []

/-- Put faults behind those that are planned for a kind of call. -/
def append (plan : FaultPlan) (c : Call) (faults : List (Option Fault)) : FaultPlan :=
  fun c' => if c' = c then plan c' ++ faults else plan c'

/-- The plan behind the next call of a kind. -/
def advance (plan : FaultPlan) (c : Call) : FaultPlan :=
  fun c' => if c' = c then (plan c').drop 1 else plan c'

/-- The fault of the next call of a kind, if it has one. -/
def next? (plan : FaultPlan) (c : Call) : Option Fault := (plan c).head?.join

end FaultPlan

/-- A store and the faults still to come. -/
structure Backend where
  store : Store
  faults : FaultPlan

namespace Backend

/-- A backend whose calls all reach the store. -/
def reliable (store : Store) : Backend := { store, faults := .none }

/-- What a call does: it answers or fails, and goes on from another backend. -/
abbrev Action (α : Type) : Type := ExceptT StoreError (StateM Backend) α

/-- A call whose fault, if it is due one, answers in place of the store. -/
def call {α : Type} (c : Call) (missed : Option α)
    (act : Store → Except StoreError (α × Store)) : Action α :=
  ExceptT.mk fun b =>
    let after : Backend := { b with faults := b.faults.advance c }
    let reach : Except StoreError α × Backend :=
      match act b.store with
      | .ok (a, store) => (.ok a, { after with store })
      | .error e => (.error e, after)
    match b.faults.next? c, missed with
    | some (.failure e), _ => (.error e, after)
    | some .miss, some a => (.ok a, after)
    | some .miss, none => reach
    | none, _ => reach

/-- Look a queue up. -/
def lookupQueue (id : QueueId) : Action (Option Queue) :=
  call .lookupQueue (some none) fun s => .ok (s.lookup? id, s)

/-- Make a queue. -/
def createQueue (now : Int) (id : QueueId) (attributes : QueueAttributes) : Action Queue :=
  call .createQueue none fun s => s.create now id attributes

/-- List the queues of an account whose names begin with a given text. -/
def listQueues (account start : String) : Action (List Queue) :=
  call .listQueues none fun s => .ok (s.list account start, s)

/-- Delete a queue. -/
def deleteQueue (id : QueueId) : Action Unit := call .deleteQueue none fun s => s.delete id

/-- Put a message into a queue. -/
def sendMessage (now : Int) (id : QueueId) (m : Message) : Action Unit :=
  call .sendMessage none fun s => s.send now id m

/-- Receive up to `max` messages of a queue. -/
def receiveMessages (now : Int) (handles : Nat → String) (id : QueueId) (max : Nat) :
    Action (List Message) :=
  call .receiveMessages none fun s => s.receive now handles id max

/-- Delete a message of a queue. -/
def deleteMessage (id : QueueId) (handle : String) : Action Unit :=
  call .deleteMessage none fun s => s.deleteMessage id handle

/-- Delete all messages of a queue. -/
def purge (id : QueueId) : Action Unit := call .purge none fun s => s.purge id

end Backend

end QueueService
