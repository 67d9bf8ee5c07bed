import QueueService.Queue.Attribute
import QueueService.Text.Integer

/-!
# Attributes of a queue

The attributes that a queue has been given, each as the text it was given in, and the settings that
are read back from them. A setting that does not read as an unsigned integer of 32 bits has its
standard value.
-/

namespace QueueService

/-- The attributes of a queue, as text. -/
abbrev QueueAttributes := Dict QueueAttribute String

namespace QueueAttributes

/-! ## Standard values -/

/-- Seconds before a new message can be received. -/
def standardDelaySeconds : Nat := 0

/-- Bytes that a message may have. -/
def standardMaximumMessageSize : Nat := 262144

/-- Seconds for which a message is kept. -/
def standardMessageRetentionPeriod : Nat := 345600

/-- Seconds for which a receive waits for messages. -/
def standardReceiveMessageWaitTimeSeconds : Nat := 0

/-- Seconds for which a received message is hidden. -/
def standardVisibilityTimeout : Nat := 30

/-- The attributes of a queue that was given none. -/
def standard : QueueAttributes :=
  Dict.ofList
    [(.delaySeconds, toString standardDelaySeconds),
      (.maximumMessageSize, toString standardMaximumMessageSize),
      (.messageRetentionPeriod, toString standardMessageRetentionPeriod),
      (.receiveMessageWaitTimeSeconds, toString standardReceiveMessageWaitTimeSeconds),
      (.visibilityTimeout, toString standardVisibilityTimeout)]

/-! ## Comparison -/

/-- The attributes that decide whether two requests for one queue agree. -/
def comparable (attributes : QueueAttributes) : QueueAttributes :=
  attributes.filter fun name _ => QueueAttribute.comparable.contains name

/-! ## Settings -/

/-- The number that an attribute spells, or else `standard`. -/
def setting (attributes : QueueAttributes) (name : QueueAttribute) (standard : Nat) : Nat :=
  ((attributes.find? name).bind (Integer.unsigned? 32)).getD standard

/-- A setting fits into 32 bits, as the one that stands in for it does. -/
theorem setting_lt (attributes : QueueAttributes) (name : QueueAttribute) {standard : Nat}
    (h : standard < 1 <<< 32) : setting attributes name standard < 1 <<< 32 := by
  unfold setting
  cases hread : (attributes.find? name).bind (Integer.unsigned? 32) with
  | none => exact h
  | some n =>
    obtain ⟨text, -, htext⟩ := Option.bind_eq_some_iff.mp hread
    exact Integer.unsigned?_lt htext

/-- Seconds before a new message can be received. -/
def delaySeconds (attributes : QueueAttributes) : Nat :=
  setting attributes .delaySeconds standardDelaySeconds

/-- Bytes that a message may have. -/
def maximumMessageSize (attributes : QueueAttributes) : Nat :=
  setting attributes .maximumMessageSize standardMaximumMessageSize

/-- Seconds for which a message is kept. -/
def messageRetentionPeriod (attributes : QueueAttributes) : Nat :=
  setting attributes .messageRetentionPeriod standardMessageRetentionPeriod

/-- Seconds for which a received message is hidden. -/
def visibilityTimeout (attributes : QueueAttributes) : Nat :=
  setting attributes .visibilityTimeout standardVisibilityTimeout

end QueueAttributes

end QueueService
