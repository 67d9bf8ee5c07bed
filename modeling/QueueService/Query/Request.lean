import QueueService.Query.Params
import QueueService.Service.Request

/-!
# Reading requests

The parameter `Action` names what is asked for, and the other parameters say the rest.
-/

namespace QueueService

/-- The name of the action that asks for a request. -/
def Request.action : Request → String
  | createQueue _ _ => "CreateQueue"
  | queueUrl _ => "GetQueueUrl"
  | listQueues _ => "ListQueues"
  | describeQueue _ _ => "GetQueueAttributes"
  | purgeQueue _ => "PurgeQueue"
  | deleteQueue _ => "DeleteQueue"
  | sendMessage _ _ => "SendMessage"
  | sendBatch _ _ => "SendMessageBatch"
  | receiveMessages _ _ => "ReceiveMessage"
  | deleteMessage _ _ => "DeleteMessage"

namespace Params

/-- The queue attributes that a new queue is to have. -/
def suppliedAttributes (p : Params) : List (String × String) :=
  (p.indices "Attribute").map fun n =>
    let item := itemName "Attribute" n
    (p.getText (item ++ ".Name"), p.getText (item ++ ".Value"))

/-- The names of the queue attributes asked for: those of a list, and a single one behind them. -/
def wantedAttributes (p : Params) : List String :=
  p.items "AttributeName" ++ (p.get? "AttributeName").toList

/-- The entries of a batch. -/
def batchEntries (p : Params) : List BatchEntry :=
  (p.indices "SendMessageBatchRequestEntry").map fun n =>
    let item := itemName "SendMessageBatchRequestEntry" n ++ "."
    { id := p.getText (item ++ "Id"), message := p.outbound item }

/-- What the parameters ask for. -/
def request (p : Params) : Except ServiceError Request :=
  match p.getText "Action" with
  | "CreateQueue" => .ok (.createQueue (p.get? "QueueName") p.suppliedAttributes)
  | "GetQueueUrl" => .ok (.queueUrl (p.get? "QueueName"))
  | "ListQueues" => .ok (.listQueues (p.get? "QueueNamePrefix"))
  | "GetQueueAttributes" => do return .describeQueue (← p.queueLocator) p.wantedAttributes
  | "PurgeQueue" => do return .purgeQueue (← p.queueLocator)
  | "DeleteQueue" => do return .deleteQueue (← p.queueLocator)
  | "SendMessage" => do return .sendMessage (← p.queueLocator) (p.outbound "")
  | "SendMessageBatch" => do return .sendBatch (← p.queueLocator) p.batchEntries
  | "ReceiveMessage" => do
    let locator ← p.queueLocator
    return .receiveMessages locator (← p.integer? "MaxNumberOfMessages")
  | "DeleteMessage" => do
    let locator ← p.queueLocator
    return .deleteMessage locator (← p.required "ReceiptHandle")
  | action => .error (.actionUnknown action)

end Params

end QueueService
