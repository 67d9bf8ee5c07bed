import QueueService.Service.Messages
import QueueService.Service.Queues

/-!
# Requests

The operations of the service as data: what can be asked for, what is answered, and the one function
that takes a request to the operation that serves it.
-/

namespace QueueService

/-- What can be asked of the service. -/
inductive Request
  | createQueue (name? : Option String) (attributes : List (String × String))
  | queueUrl (name? : Option String)
  | listQueues (start? : Option String)
  | describeQueue (locator : String) (names : List String)
  | purgeQueue (locator : String)
  | deleteQueue (locator : String)
  | sendMessage (locator : String) (message : OutboundMessage)
  | sendBatch (locator : String) (entries : List BatchEntry)
  | receiveMessages (locator : String) (asked : Option Int)
  | deleteMessage (locator : String) (handle : String)
  deriving DecidableEq

/-- What the service answers. -/
inductive Reply
  | address (url : String)
  | addresses (urls : List String)
  | description (attributes : Dict QueueAttribute String)
  | sent (receipt : Receipt)
  | batch (outcome : BatchOutcome)
  | messages (received : List Message)
  | done
  deriving DecidableEq

/-- Serve a request. -/
def Request.serve (desk : Desk) (caller : Caller) (occasion : Occasion) :
    Request → Operation Reply
  | createQueue name? attributes =>
    Reply.address <$> Service.createQueue desk caller occasion name? attributes
  | queueUrl name? => Reply.address <$> Service.queueUrl desk caller name?
  | listQueues start? => Reply.addresses <$> Service.listQueues desk caller start?
  | describeQueue locator names =>
    Reply.description <$> Service.describeQueue desk caller locator names
  | purgeQueue locator => (fun _ => Reply.done) <$> Service.purgeQueue desk caller locator
  | deleteQueue locator => (fun _ => Reply.done) <$> Service.deleteQueue desk caller locator
  | sendMessage locator message =>
    Reply.sent <$> Service.sendMessage desk caller occasion locator message
  | sendBatch locator entries =>
    Reply.batch <$> Service.sendBatch desk caller occasion locator entries
  | receiveMessages locator asked =>
    Reply.messages <$> Service.receiveMessages desk caller occasion locator asked
  | deleteMessage locator handle =>
    (fun _ => Reply.done) <$> Service.deleteMessage desk caller locator handle

end QueueService
