/-!
# Error codes

The codes by which failures are told apart on the wire, with the status and the fault that go with them.
-/

namespace QueueService

/-- The codes of failures. -/
inductive ErrorCode
  | accessDenied
  | internalFailure
  | invalidAction
  | invalidParameterValue
  | missingParameter
  | invalidAddress
  | queueAlreadyExists
  | queueDoesNotExist
  | receiptHandleIsInvalid
  | unsupportedOperation
  | batchEntryIdsNotDistinct
  | emptyBatchRequest
  | invalidBatchEntryId
  | tooManyEntriesInBatchRequest
  deriving DecidableEq

namespace ErrorCode

/-- The code as it is sent. -/
def wire : ErrorCode → String
  | accessDenied => "AccessDenied"
  | internalFailure => "InternalFailure"
  | invalidAction => "InvalidAction"
  | invalidParameterValue => "InvalidParameterValue"
  | missingParameter => "MissingParameter"
  | invalidAddress => "InvalidAddress"
  | queueAlreadyExists => "QueueAlreadyExists"
  | queueDoesNotExist => "AWS.SimpleQueueService.NonExistentQueue"
  | receiptHandleIsInvalid => "ReceiptHandleIsInvalid"
  | unsupportedOperation => "AWS.SimpleQueueService.UnsupportedOperation"
  | batchEntryIdsNotDistinct => "AWS.SimpleQueueService.BatchEntryIdsNotDistinct"
  | emptyBatchRequest => "AWS.SimpleQueueService.EmptyBatchRequest"
  | invalidBatchEntryId => "AWS.SimpleQueueService.InvalidBatchEntryId"
  | tooManyEntriesInBatchRequest => "AWS.SimpleQueueService.TooManyEntriesInBatchRequest"

/-- The status of an answer that carries the code. -/
def status : ErrorCode → Nat
  | accessDenied => 403
  | internalFailure => 500
  | _ => 400

/-- Whether the fault lies with the caller, which it does unless the service itself failed. -/
def isSenderFault (code : ErrorCode) : Bool := code != internalFailure

/-- Whose fault it is, as it is sent. -/
def fault (code : ErrorCode) : String := if code.isSenderFault then "Sender" else "Receiver"

end ErrorCode

end QueueService
