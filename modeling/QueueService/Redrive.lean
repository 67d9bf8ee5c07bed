import QueueService.Json.Reader
import QueueService.Json.Writer
import QueueService.Limits
import QueueService.Queue.Id
import QueueService.Text.Alphabet

/-!
# Redrive policies

A redrive policy names the queue to which messages are moved that have been received too often. It is
given as a JSON object with exactly two members and kept in a canonical form. Whether the target exists
is not decided here.

## Contents
- `RedrivePolicy`: a policy and its canonical document.
- `RedrivePolicy.parse`: reading a document on behalf of an account in a region.
-/

namespace QueueService

/-- How often a message may be received, and where it goes then. -/
structure RedrivePolicy where
  maxReceiveCount : Nat
  target : QueueId
  deriving DecidableEq

namespace RedrivePolicy

/-- The name of the member that holds the count. -/
def countKey : String := "maxReceiveCount"

/-- The name of the member that holds the target. -/
def targetKey : String := "deadLetterTargetArn"

/-- The canonical document of a policy. -/
def toDocument (policy : RedrivePolicy) (region : String) : String :=
  Json.toText (.object
    [(targetKey, .string (policy.target.arn region).toText),
      (countKey, .number (.integer policy.maxReceiveCount))])

/-! ## Errors -/

/-- What is wrong with a policy that is a JSON object. -/
inductive Reason
  | missingMember (key : String)
  | extraMember
  | receiveCount (found : String) (limit : Nat)
  | targetName
  | otherRegion
  | otherAccount
  | targetMissing
  deriving DecidableEq

/-- The wording of a reason. -/
def Reason.message : Reason → String
  | missingMember key => "Redrive policy does not contain mandatory attribute: " ++ key ++ "."
  | extraMember =>
    "Only following attributes are supported: [" ++ targetKey ++ ", " ++ countKey ++ "]."
  | receiveCount found limit =>
    "Invalid value for " ++ countKey ++ ": " ++ found ++ ", valid values are from 1 to "
      ++ toString limit ++ " both inclusive."
  | targetName => "Invalid value for " ++ targetKey ++ "."
  | otherRegion => "Dead-letter target must be in same region as the source."
  | otherAccount => "Dead-letter target owner should be same as the source."
  | targetMissing => "Dead letter target does not exist."

/-- Why a document is refused. -/
inductive Error
  | notAMap
  | invalid (document : String) (reason : Reason)
  deriving DecidableEq

/-- The wording of an error. -/
def Error.message : Error → String
  | notAMap =>
    "Invalid value for the parameter RedrivePolicy. "
      ++ "Reason: Redrive policy is not a valid JSON map."
  | invalid document reason =>
    "Value " ++ document ++ " for parameter RedrivePolicy is invalid. Reason: " ++ reason.message

/-! ## Reading -/

/-- The count that a value gives: a whole number, or a string that reads as one of 32 bits with blanks
    around it. -/
def receiveCount? : Json → Option Nat
  | .number (.integer i) => if 0 ≤ i && i.toNat < 1 <<< 32 then some i.toNat else none
  | .string s => Integer.unsigned? 32 (Blank.trim s)
  | _ => none

/-- The resource name of a queue that a value gives. -/
def targetArn? (limits : Limits) : Json → Option Arn
  | .string s =>
    match Arn.parse s with
    | .ok arn =>
      if arn.service == "sqs" && Alphabet.isQueueName limits.queueNameLength arn.resource then
        some arn
      else none
    | .error _ => none
  | _ => none

/-- Check the two values of a policy. -/
def ofValues (limits : Limits) (account region : String) (count target : Json) :
    Except Reason RedrivePolicy :=
  match (receiveCount? count).filter fun n => 1 ≤ n && n ≤ limits.maxReceiveCount with
  | none => .error (.receiveCount count.toText limits.maxReceiveCount)
  | some n =>
    match targetArn? limits target with
    | none => .error .targetName
    | some arn =>
      if arn.region != region then .error .otherRegion
      else if arn.account != account then .error .otherAccount
      else .ok { maxReceiveCount := n, target := { account := arn.account, name := arn.resource } }

/-- Check the members of a policy. -/
def ofMembers (limits : Limits) (account region : String) (members : List (String × Json)) :
    Except Reason RedrivePolicy :=
  match Json.member? countKey members with
  | none => .error (.missingMember countKey)
  | some count =>
    match Json.member? targetKey members with
    | none => .error (.missingMember targetKey)
    | some target =>
      if 2 < members.length then .error .extraMember
      else ofValues limits account region count target

/-- Read a document on behalf of an account in a region. -/
def parse (limits : Limits) (account region document : String) : Except Error RedrivePolicy :=
  match Json.parse? document with
  | some (.object members) => (ofMembers limits account region members).mapError (.invalid document)
  | _ => .error .notAMap

end RedrivePolicy

end QueueService
