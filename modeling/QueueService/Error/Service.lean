import QueueService.Error.Code
import QueueService.Message.Validation
import QueueService.Policy
import QueueService.Redrive
import QueueService.Store.Basic

/-!
# Failures of the service

Everything that can go wrong with a request, by its cause, and the code and the wording under which the
caller learns of it.
-/

namespace QueueService

/-- Why a request fails. -/
inductive ServiceError
  | queueNameMissing
  | queueNameEmpty
  | queueNameInvalid (limit : Nat)
  | attributeUnknown
  | attributeNotANumber (name : String)
  | attributeOutOfRange (name : String) (least greatest : Nat)
  | policy (cause : Policy.Error)
  | redrive (cause : RedrivePolicy.Error)
  | queueConflict (name : String)
  | queueMissing
  | addressInvalid (locator : String)
  | notTheOwner (locator : String)
  | receiveCount (asked : Int) (greatest : Nat)
  | batchEmpty
  | batchTooLong (entries greatest : Nat)
  | entryIdInvalid
  | entryIdRepeated (id : String)
  | delayNotANumber (text : String)
  | delayOutOfRange (greatest : Nat)
  | messageAttribute (cause : AttributeError)
  | bodyMissing
  | bodyCharacter (c : Char)
  | messageTooLong (limit : Nat)
  | parameterMissing (name : String)
  | parameterNotANumber (name value : String)
  | parameterNotText (name : String)
  | actionUnknown (action : String)
  | store (cause : StoreError)
  deriving DecidableEq

namespace ServiceError

/-- The code of a failure of the store. -/
def storeCode : StoreError → ErrorCode
  | .queueNotFound _ => .queueDoesNotExist
  | .queueExists _ => .queueAlreadyExists
  | .handleNotFound _ => .receiptHandleIsInvalid
  | .backend _ => .internalFailure

/-- The code of a failure. -/
def code : ServiceError → ErrorCode
  | queueNameMissing => .missingParameter
  | queueConflict _ => .queueAlreadyExists
  | queueMissing => .queueDoesNotExist
  | addressInvalid _ => .invalidAddress
  | notTheOwner _ => .accessDenied
  | batchEmpty => .emptyBatchRequest
  | batchTooLong _ _ => .tooManyEntriesInBatchRequest
  | entryIdInvalid => .invalidBatchEntryId
  | entryIdRepeated _ => .batchEntryIdsNotDistinct
  | messageAttribute .listValue => .unsupportedOperation
  | bodyMissing => .missingParameter
  | parameterMissing _ => .missingParameter
  | actionUnknown _ => .invalidAction
  | store cause => storeCode cause
  | _ => .invalidParameterValue

/-- What a caller is told when the service itself fails. -/
def internalMessage : String := "We encountered an internal error. Please try again."

/-- What a caller is told when the store fails. The text of a failing backend is not part of it. -/
def storeMessage : StoreError → String
  | .queueNotFound _ => "The specified queue does not exist."
  | .queueExists name => name ++ " already exists."
  | .handleNotFound handle =>
    "The input receipt handle \"" ++ handle ++ "\" is not a valid receipt handle."
  | .backend _ => internalMessage

/-- The wording of a failure. -/
def message : ServiceError → String
  | queueNameMissing => "The request must contain the parameter QueueName."
  | queueNameEmpty => "Queue name cannot be empty."
  | queueNameInvalid limit =>
    "Queue name can only include alphanumeric characters, hyphens, or underscores. 1 to "
      ++ toString limit ++ " in length"
  | attributeUnknown => "Attribute.Name must be one of " ++ QueueAttribute.listing
  | attributeNotANumber name => name ++ " must be a number"
  | attributeOutOfRange name least greatest =>
    name ++ " must be a number between " ++ toString least ++ " and " ++ toString greatest
  | policy _ => "Invalid value for the parameter Policy."
  | redrive cause => cause.message
  | queueConflict name => name ++ " already exists."
  | queueMissing => "The specified queue does not exist."
  | addressInvalid locator => "The address " ++ locator ++ " is not valid for this endpoint."
  | notTheOwner locator => "Access to the resource " ++ locator ++ " is denied."
  | receiveCount asked greatest =>
    "Value " ++ toString asked ++ " for parameter MaxNumberOfMessages is invalid. "
      ++ "Reason: must be between 1 and " ++ toString greatest ++ ", if provided."
  | batchEmpty => "There should be at least one SendMessageBatchRequestEntry in the request."
  | batchTooLong entries greatest =>
    "Maximum number of entries per request are " ++ toString greatest ++ ". You have sent "
      ++ toString entries ++ "."
  | entryIdInvalid =>
    "A batch entry id can only contain alphanumeric characters, hyphens and underscores. "
      ++ "It can be at most 80 letters long."
  | entryIdRepeated id => "Id " ++ id ++ " repeated."
  | delayNotANumber text =>
    "Value " ++ text ++ " for parameter DelaySeconds is invalid. Reason: must be an integer."
  | delayOutOfRange greatest => "DelaySeconds must be a number between 0 and " ++ toString greatest
  | messageAttribute cause => cause.message
  | bodyMissing => "The request must contain the parameter MessageBody."
  | bodyCharacter c =>
    "Invalid binary character '" ++ Alphabet.codePointLabel c
      ++ "' was found in the message body, the set of allowed characters is "
      ++ Alphabet.bodyCharSet
  | messageTooLong limit =>
    "The message exceeds the maximum message length of the queue, which is " ++ toString limit
      ++ " bytes"
  | parameterMissing name => "The request must contain the parameter " ++ name ++ "."
  | parameterNotANumber name value =>
    "Value " ++ value ++ " for parameter " ++ name ++ " is invalid. Reason: must be an integer."
  | parameterNotText name => "Value for parameter " ++ name ++ " is not valid UTF-8."
  | actionUnknown action => "The action " ++ action ++ " is not valid for this web service."
  | store cause => storeMessage cause

/-- What lies behind a failure of the service itself, for callers who may know. -/
def detail? : ServiceError → Option String
  | store (.backend text) => some (StoreError.backend text).message
  | _ => none

end ServiceError

end QueueService
