import QueueService.Text.Blank
import QueueService.Text.Integer

/-!
# Service limits

The nine limits that requests are checked against. Limits are changed by lists of named updates: each
update is checked against the limit's own constraint, and a list takes effect as a whole or not at
all.

## Contents
- `Limit`: the names and their constraints.
- `Limits`: one consistent set of values, with `get` and `set` by name.
- `Limits.apply`, `Limits.publish`: a list of updates, and the limits in force behind it.
-/

namespace QueueService

/-! ## The limits -/

/-- The limits by name. -/
inductive Limit
  | queueNameLength
  | delaySeconds
  | maximumMessageSize
  | messageRetentionPeriod
  | receiveMessageWaitTimeSeconds
  | visibilityTimeout
  | maxReceiveCount
  | messageAttributeNameLength
  | messageAttributeTypeLength
  deriving DecidableEq

namespace Limit

/-- All limits, in the order in which they are listed. -/
def all : List Limit :=
  [queueNameLength, delaySeconds, maximumMessageSize, messageRetentionPeriod,
    receiveMessageWaitTimeSeconds, visibilityTimeout, maxReceiveCount, messageAttributeNameLength,
    messageAttributeTypeLength]

/-- The key under which a limit is changed. -/
def key : Limit → String
  | queueNameLength => "max_queue_name_length"
  | delaySeconds => "max_delay_seconds"
  | maximumMessageSize => "max_maximum_message_size"
  | messageRetentionPeriod => "max_message_retention_period"
  | receiveMessageWaitTimeSeconds => "max_receive_message_wait_time_seconds"
  | visibilityTimeout => "max_visibility_timeout"
  | maxReceiveCount => "max_max_receive_count"
  | messageAttributeNameLength => "max_message_attribute_name_length"
  | messageAttributeTypeLength => "max_message_attribute_type_length"

/-- The limit with a given key. -/
def ofKey? (key : String) : Option Limit := all.find? fun l => l.key == key

theorem ofKey?_key (l : Limit) : ofKey? l.key = some l := by cases l <;> rfl

theorem ofKey?_eq_some_iff {key : String} {l : Limit} : ofKey? key = some l ↔ l.key = key := by
  constructor
  · intro h
    simpa using List.find?_some h
  · rintro rfl
    exact ofKey?_key l

theorem key_inj {l m : Limit} (h : l.key = m.key) : l = m :=
  Option.some.inj ((ofKey?_key l).symm.trans (ofKey?_eq_some_iff.mpr h.symm))

/-- The least value that a limit may have. -/
def least : Limit → Nat
  | queueNameLength => 1
  | delaySeconds => 0
  | maximumMessageSize => 1024
  | messageRetentionPeriod => 60
  | receiveMessageWaitTimeSeconds => 0
  | visibilityTimeout => 0
  | maxReceiveCount => 1
  | messageAttributeNameLength => 1
  | messageAttributeTypeLength => 1

/-- How a value below the least one is refused. -/
def tooSmall (l : Limit) : String :=
  if l.least = 1 then "must be positive" else "must be at least " ++ toString l.least

end Limit

/-- One value for each limit. -/
structure Limits where
  queueNameLength : Nat
  delaySeconds : Nat
  maximumMessageSize : Nat
  messageRetentionPeriod : Nat
  receiveMessageWaitTimeSeconds : Nat
  visibilityTimeout : Nat
  maxReceiveCount : Nat
  messageAttributeNameLength : Nat
  messageAttributeTypeLength : Nat
  deriving DecidableEq

namespace Limits

/-- The limits of a new service. -/
def standard : Limits where
  queueNameLength := 80
  delaySeconds := 900
  maximumMessageSize := 262144
  messageRetentionPeriod := 1209600
  receiveMessageWaitTimeSeconds := 20
  visibilityTimeout := 43200
  maxReceiveCount := 1000
  messageAttributeNameLength := 256
  messageAttributeTypeLength := 256

/-- The value of a limit. -/
def get (limits : Limits) : Limit → Nat
  | .queueNameLength => limits.queueNameLength
  | .delaySeconds => limits.delaySeconds
  | .maximumMessageSize => limits.maximumMessageSize
  | .messageRetentionPeriod => limits.messageRetentionPeriod
  | .receiveMessageWaitTimeSeconds => limits.receiveMessageWaitTimeSeconds
  | .visibilityTimeout => limits.visibilityTimeout
  | .maxReceiveCount => limits.maxReceiveCount
  | .messageAttributeNameLength => limits.messageAttributeNameLength
  | .messageAttributeTypeLength => limits.messageAttributeTypeLength

/-- Give one limit another value. -/
def set (limits : Limits) (l : Limit) (value : Nat) : Limits :=
  match l with
  | .queueNameLength => { limits with queueNameLength := value }
  | .delaySeconds => { limits with delaySeconds := value }
  | .maximumMessageSize => { limits with maximumMessageSize := value }
  | .messageRetentionPeriod => { limits with messageRetentionPeriod := value }
  | .receiveMessageWaitTimeSeconds => { limits with receiveMessageWaitTimeSeconds := value }
  | .visibilityTimeout => { limits with visibilityTimeout := value }
  | .maxReceiveCount => { limits with maxReceiveCount := value }
  | .messageAttributeNameLength => { limits with messageAttributeNameLength := value }
  | .messageAttributeTypeLength => { limits with messageAttributeTypeLength := value }

theorem get_set (limits : Limits) (l m : Limit) (value : Nat) :
    (limits.set l value).get m = if m = l then value else limits.get m := by
  cases l <;> cases m <;> rfl

/-- Limits with the same values are equal. -/
theorem ext_get {a b : Limits} (h : ∀ l, a.get l = b.get l) : a = b := by
  cases a; cases b
  simp only [mk.injEq]
  exact ⟨h .queueNameLength, h .delaySeconds, h .maximumMessageSize, h .messageRetentionPeriod,
    h .receiveMessageWaitTimeSeconds, h .visibilityTimeout, h .maxReceiveCount,
    h .messageAttributeNameLength, h .messageAttributeTypeLength⟩

/-! ## Admissible limits -/

/-- Every limit is a number of 32 bits. -/
def Fits (limits : Limits) : Prop := ∀ l, limits.get l < 1 <<< 32

/-- **Admissible limits.** They fit, and none is below its least value. -/
structure Admissible (limits : Limits) : Prop where
  fits : limits.Fits
  least_le : ∀ l : Limit, l.least ≤ limits.get l

theorem standard_admissible : standard.Admissible where
  fits l := by cases l <;> decide
  least_le l := by cases l <;> decide

theorem Admissible.set {limits : Limits} (h : limits.Admissible) {l : Limit} {n : Nat}
    (hfits : n < 1 <<< 32) (hleast : l.least ≤ n) : (limits.set l n).Admissible where
  fits m := by
    rw [get_set]
    split
    · exact hfits
    · exact h.fits m
  least_le m := by
    rw [get_set]
    split
    · next heq => exact heq ▸ hleast
    · exact h.least_le m

/-! ## Updates -/

/-- Why an update is refused. -/
inductive Error
  | unknownKey (key : String)
  | notANumber (l : Limit) (value : String)
  | tooSmall (l : Limit) (value : String)
  deriving DecidableEq

/-- The wording of an error. -/
def Error.message : Error → String
  | .unknownKey key => "Unknown limit: " ++ key
  | .notANumber l value =>
    "Invalid value " ++ value ++ " for " ++ l.key ++ ": must be a non-negative integer"
  | .tooSmall l value => "Invalid value " ++ value ++ " for " ++ l.key ++ ": " ++ l.tooSmall

/-- The limit and the value that an update names: a known key, and an unsigned integer of 32 bits that
    is not below the limit's least value. Blanks around the integer do not count. -/
def readUpdate (key value : String) : Except Error (Limit × Nat) :=
  match Limit.ofKey? key with
  | none => .error (.unknownKey key)
  | some l =>
    match Integer.unsigned? 32 (Blank.trim value) with
    | none => .error (.notANumber l value)
    | some n => if n < l.least then .error (.tooSmall l value) else .ok (l, n)

/-- Apply a list of updates in order. The first bad update refuses the whole list. -/
def apply (limits : Limits) : List (String × String) → Except Error Limits
  | [] => .ok limits
  | (key, value) :: rest =>
    match readUpdate key value with
    | .error e => .error e
    | .ok (l, n) => (limits.set l n).apply rest

/-- Put a list of updates in force. Yields the answer, and the limits in force afterwards: the same as
    before where the list is refused. -/
def publish (limits : Limits) (updates : List (String × String)) : Except Error Limits × Limits :=
  match limits.apply updates with
  | .ok next => (.ok next, next)
  | .error e => (.error e, limits)

theorem readUpdate_ok {key value : String} {l : Limit} {n : Nat} (h : readUpdate key value = .ok (l, n)) :
    Limit.ofKey? key = some l ∧ Integer.unsigned? 32 (Blank.trim value) = some n ∧ l.least ≤ n := by
  unfold readUpdate at h
  split at h
  · cases h
  · next l' hkey =>
    split at h
    · cases h
    · next n' hread =>
      split at h
      · cases h
      · next hleast =>
        cases h
        exact ⟨hkey, hread, Nat.le_of_not_lt hleast⟩

/-- Updates keep limits admissible, so all limits that are ever in force are. -/
theorem Admissible.apply {limits limits' : Limits} (h : limits.Admissible)
    {updates : List (String × String)} (happly : limits.apply updates = .ok limits') :
    limits'.Admissible := by
  induction updates generalizing limits with
  | nil =>
    cases happly
    exact h
  | cons update rest ih =>
    obtain ⟨key, value⟩ := update
    unfold Limits.apply at happly
    split at happly
    · cases happly
    · next l n hupdate =>
      obtain ⟨-, hread, hleast⟩ := readUpdate_ok hupdate
      exact ih (h.set (Integer.unsigned?_lt hread) hleast) happly

end Limits

end QueueService
