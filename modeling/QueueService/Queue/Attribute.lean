import QueueService.Dict.Basic

/-!
# Queue attribute names

The names of the attributes of a queue, in their canonical order, in which attributes are listed.
-/

namespace QueueService

/-- The queue attributes by name; `all` stands for every one. -/
inductive QueueAttribute
  | all
  | policy
  | visibilityTimeout
  | maximumMessageSize
  | messageRetentionPeriod
  | approximateNumberOfMessages
  | approximateNumberOfMessagesNotVisible
  | createdTimestamp
  | lastModifiedTimestamp
  | queueArn
  | approximateNumberOfMessagesDelayed
  | delaySeconds
  | receiveMessageWaitTimeSeconds
  | redrivePolicy
  deriving DecidableEq

namespace QueueAttribute

/-- Every name, in canonical order. -/
def names : List QueueAttribute :=
  [all, policy, visibilityTimeout, maximumMessageSize, messageRetentionPeriod,
    approximateNumberOfMessages, approximateNumberOfMessagesNotVisible, createdTimestamp,
    lastModifiedTimestamp, queueArn, approximateNumberOfMessagesDelayed, delaySeconds,
    receiveMessageWaitTimeSeconds, redrivePolicy]

/-- The place of a name in the canonical order. -/
def rank : QueueAttribute → Nat
  | all => 0
  | policy => 1
  | visibilityTimeout => 2
  | maximumMessageSize => 3
  | messageRetentionPeriod => 4
  | approximateNumberOfMessages => 5
  | approximateNumberOfMessagesNotVisible => 6
  | createdTimestamp => 7
  | lastModifiedTimestamp => 8
  | queueArn => 9
  | approximateNumberOfMessagesDelayed => 10
  | delaySeconds => 11
  | receiveMessageWaitTimeSeconds => 12
  | redrivePolicy => 13

theorem names_rank : ∀ a : QueueAttribute, names[a.rank]? = some a := by
  intro a
  cases a <;> rfl

theorem rank_injective {a b : QueueAttribute} (h : a.rank = b.rank) : a = b := by
  have ha := names_rank a
  rw [h, names_rank b] at ha
  exact (Option.some.inj ha).symm

instance : Ord QueueAttribute := ⟨compareOn rank⟩

instance : Std.TransOrd QueueAttribute := inferInstanceAs (Std.TransCmp (compareOn rank))

instance : Std.LawfulEqOrd QueueAttribute where
  eq_of_compare {a b} h := by
    have h' : compare a.rank b.rank = .eq := h
    exact rank_injective (Std.LawfulEqOrd.eq_of_compare h')

/-- The attributes that decide whether two requests for one queue agree. -/
def comparable : List QueueAttribute :=
  [delaySeconds, maximumMessageSize, messageRetentionPeriod, receiveMessageWaitTimeSeconds,
    visibilityTimeout, policy, redrivePolicy]

/-- The written form of a name. -/
def toText : QueueAttribute → String
  | all => "All"
  | policy => "Policy"
  | visibilityTimeout => "VisibilityTimeout"
  | maximumMessageSize => "MaximumMessageSize"
  | messageRetentionPeriod => "MessageRetentionPeriod"
  | approximateNumberOfMessages => "ApproximateNumberOfMessages"
  | approximateNumberOfMessagesNotVisible => "ApproximateNumberOfMessagesNotVisible"
  | createdTimestamp => "CreatedTimestamp"
  | lastModifiedTimestamp => "LastModifiedTimestamp"
  | queueArn => "QueueArn"
  | approximateNumberOfMessagesDelayed => "ApproximateNumberOfMessagesDelayed"
  | delaySeconds => "DelaySeconds"
  | receiveMessageWaitTimeSeconds => "ReceiveMessageWaitTimeSeconds"
  | redrivePolicy => "RedrivePolicy"

/-- The name with a given written form. -/
def ofText? (text : String) : Option QueueAttribute := names.find? fun a => a.toText == text

theorem ofText?_toText (a : QueueAttribute) : ofText? a.toText = some a := by cases a <;> rfl

theorem toText_of_ofText? {text : String} {a : QueueAttribute} (h : ofText? text = some a) :
    a.toText = text := by
  have := List.find?_some h
  simpa using this

/-- All names with bars between them, as refusals quote them. -/
def listing : String := " | ".intercalate (names.map toText)

end QueueAttribute

end QueueService
