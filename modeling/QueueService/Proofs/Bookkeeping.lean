import Mathlib.Data.List.Induction
import QueueService.Dict.Lemmas
import QueueService.Proofs.Preparation
import QueueService.Proofs.Store.Delivery

/-!
# Bookkeeping

The bookkeeping of a message is kept as texts under keys. `Books` says what the texts say: the bookkeeping
of a prepared message has books (`prepare_books`), each receive carries them on (`received_books`), and
what receivers see of them is the `summary`. The receives are counted twice, by counts that are read back
as numbers of 64 bits without and with a sign, so that each is right as long as it fits.
-/

namespace QueueService

/-! ## Books -/

/-- What the bookkeeping of a message says: the sender and the time of the send, the delay and the
    retention that the message was given, and the receives so far. -/
structure Books where
  sender : String
  sent : Int
  delay : Nat
  retention : Nat
  first? : Option Int
  count : Nat
  /-- The count that the store keeps for itself. -/
  localCount : Int

namespace Books

/-- The books of a message that was not received yet. -/
def opening (sender : String) (sent : Int) (delay retention : Nat) : Books :=
  ⟨sender, sent, delay, retention, none, 0, 0⟩

/-- The text under a key. -/
def text? (books : Books) (key : String) : Option String :=
  if key = SystemAttribute.approximateFirstReceiveTimestamp.key then books.first?.map toString
  else if key = SystemAttribute.approximateReceiveCount.key then some (toString books.count)
  else if key = SystemAttribute.senderId.key then some books.sender
  else if key = SystemAttribute.sentTimestamp.key then some (toString books.sent)
  else if key = InternalAttribute.localReceiveCount.key then some (toString books.localCount)
  else if key = InternalAttribute.delaySeconds.key then some (toString books.delay)
  else if key = InternalAttribute.messageRetentionPeriod.key then some (toString books.retention)
  else none

/-- The bookkeeping of a message has the texts of the books and no others. -/
def Of (books : Books) (m : Message) : Prop := ∀ key, m.bookkeeping.find? key = books.text? key

/-- The books behind one more receive. The counts are read back from their texts. -/
def receive (books : Books) (now : Int) : Books :=
  { books with
    first? := some (books.first?.getD now)
    count := (Integer.unsigned? 64 (toString books.count)).getD 0 + 1
    localCount := (Integer.signed? 64 (toString books.localCount)).getD 0 + 1 }

/-- The books behind receives with readings and handles `rs`. -/
def receives (books : Books) (rs : List (Int × String)) : Books :=
  rs.foldl (fun books r => books.receive r.1) books

theorem receives_snoc (books : Books) (rs : List (Int × String)) (r : Int × String) :
    books.receives (rs ++ [r]) = (books.receives rs).receive r.1 := by
  rw [receives, List.foldl_append]
  rfl

section Receives

variable (sender : String) (sent : Int) (delay retention : Nat)

/-- What was written at the send stays, and the first receive is noted, and no later one. -/
theorem receives_opening (rs : List (Int × String)) :
    ∃ count localCount, (opening sender sent delay retention).receives rs =
      ⟨sender, sent, delay, retention, rs.head?.map (·.1), count, localCount⟩ := by
  induction rs using List.reverseRecOn with
  | nil => exact ⟨_, _, rfl⟩
  | append_singleton rs r ih =>
      obtain ⟨count, localCount, heq⟩ := ih
      rw [receives_snoc, heq]
      cases rs with
      | nil => exact ⟨_, _, rfl⟩
      | cons first rs => exact ⟨_, _, rfl⟩

/-- The count that receivers see is right as long as it fits into 64 bits. -/
theorem receives_count {rs : List (Int × String)} (hlength : rs.length ≤ 1 <<< 64) :
    ((opening sender sent delay retention).receives rs).count = rs.length := by
  induction rs using List.reverseRecOn with
  | nil => rfl
  | append_singleton rs r ih =>
      rw [List.length_append, List.length_singleton] at hlength ⊢
      have hread : Integer.unsigned? 64 (toString rs.length) = some rs.length :=
        Integer.unsigned?_toString (by omega)
      rw [receives_snoc, receive, ih (by omega), hread]
      rfl

/-- The count of the store is right as long as it fits into 63 bits. -/
theorem receives_localCount {rs : List (Int × String)} (hlength : rs.length ≤ 1 <<< 63) :
    ((opening sender sent delay retention).receives rs).localCount = rs.length := by
  induction rs using List.reverseRecOn with
  | nil => rfl
  | append_singleton rs r ih =>
      rw [List.length_append, List.length_singleton] at hlength ⊢
      have hread : Integer.signed? 64 (toString (rs.length : Int)) = some (rs.length : Int) :=
        Integer.signed?_toString (show rs.length < 1 <<< 63 by omega)
      rw [receives_snoc, receive, ih (by omega), hread]
      rfl

end Receives

/-- The books as receivers see them. -/
def summary (sender : String) (sent first : Int) (count : Nat) : Dict String String :=
  Dict.ofList
    [(SystemAttribute.approximateFirstReceiveTimestamp.key, toString first),
      (SystemAttribute.approximateReceiveCount.key, toString count),
      (SystemAttribute.senderId.key, sender),
      (SystemAttribute.sentTimestamp.key, toString sent)]

end Books

namespace OutboundMessage

/-- The bookkeeping of a new message, key by key. -/
theorem bookkeeping_find? (sender : String) (queue : Queue) (delay : Nat) (now : Int) (key : String) :
    (bookkeeping sender queue delay now).find? key =
      (Books.opening sender now delay queue.attributes.messageRetentionPeriod).text? key := by
  simp only [bookkeeping, Dict.ofList, List.foldl_cons, List.foldl_nil, Dict.find?_insert,
    Dict.find?_empty, Books.text?, Books.opening, SystemAttribute.key, InternalAttribute.key]
  -- both sides are the same choice by keys, in another order
  split_ifs <;> simp_all <;> rfl

variable {limits : Limits} {sender : String} {queue : Queue} {now : Int} {id : String}
  {m : OutboundMessage} {message : Message}

/-- **Opening the books.** A prepared message was never received, and its delay is the validated one. -/
theorem prepare_books (h : m.prepare limits sender queue now id = .ok message) :
    ∃ delay, m.DelayedBy limits queue delay ∧
      (Books.opening sender now delay queue.attributes.messageRetentionPeriod).Of message := by
  obtain ⟨delay, accepted, body, hdelay, -, -, -, hmessage⟩ := prepare_ok h
  refine ⟨delay, hdelay, fun key => ?_⟩
  rw [hmessage]
  exact bookkeeping_find? ..

/-- A validated delay is a number of 63 bits. -/
theorem DelayedBy.lt {delay : Nat} (h : m.DelayedBy limits queue delay) : delay < 1 <<< 63 := by
  unfold DelayedBy at h
  split at h
  · have hlt : queue.attributes.delaySeconds < 1 <<< 32 :=
      QueueAttributes.setting_lt _ _ (by decide)
    rw [h]
    exact Nat.lt_trans hlt (by decide)
  · exact Integer.signed?_lt h.1

end OutboundMessage

/-! ## Reading the books -/

namespace Books

variable {books : Books} {m : Message}

theorem Of.system? (h : books.Of m) (a : SystemAttribute) : m.system? a = books.text? a.key := h _

theorem Of.internal? (h : books.Of m) (a : InternalAttribute) :
    m.internal? a = (books.text? a.key).bind (Integer.signed? 64) := by
  rw [Message.internal?, h]

/-- The time of the send is read back. -/
theorem Of.sentAt (h : books.Of m) : Store.sentAt m books.sent = books.sent := by
  rw [Store.sentAt, h.system?]
  exact Integer.signed?_toString_getD 64 books.sent

/-- The delay is read back. -/
theorem Of.delay (h : books.Of m) (hlt : books.delay < 1 <<< 63) :
    m.internal? .delaySeconds = some (books.delay : Int) := by
  rw [h.internal?]
  exact Integer.signed?_toString hlt

/-- The retention is read back. -/
theorem Of.retention (h : books.Of m) (hlt : books.retention < 1 <<< 63) :
    m.internal? .messageRetentionPeriod = some (books.retention : Int) := by
  rw [h.internal?]
  exact Integer.signed?_toString hlt

/-- An internal key has no text in a summary. -/
theorem summary_find?_internal {key : String} (h : InternalAttribute.isKey key = true)
    (sender : String) (sent first : Int) (count : Nat) :
    (summary sender sent first count).find? key = none := by
  have hne : ∀ a : SystemAttribute, key ≠ a.key := by
    rintro a rfl
    rw [InternalAttribute.isKey_systemKey] at h
    cases h
  simp only [summary, Dict.ofList, List.foldl_cons, List.foldl_nil, Dict.find?_insert,
    Dict.find?_empty, hne, if_false]

/-- Any other key has the text that the books have. -/
theorem summary_find? {key : String} (h : InternalAttribute.isKey key = false) {first : Int}
    (hfirst : books.first? = some first) :
    (summary books.sender books.sent first books.count).find? key = books.text? key := by
  have hne : ∀ a : InternalAttribute, key ≠ a.key := by
    rintro a rfl
    rw [InternalAttribute.isKey_key] at h
    cases h
  simp only [summary, text?, hfirst, Dict.ofList, List.foldl_cons, List.foldl_nil,
    Dict.find?_insert, Dict.find?_empty, hne, if_false, SystemAttribute.key]
  split_ifs <;> simp_all

/-- **What receivers see** of the books is their summary. -/
theorem Of.summary (h : books.Of m) {first : Int} (hfirst : books.first? = some first) :
    m.stripInternal.bookkeeping = Books.summary books.sender books.sent first books.count := by
  refine Dict.ext_find? fun key => ?_
  show (m.bookkeeping.filter fun key _ => !InternalAttribute.isKey key).find? key = _
  rw [Dict.find?_filter (fun key => !InternalAttribute.isKey key), h]
  cases hkey : InternalAttribute.isKey key with
  | true => exact (summary_find?_internal hkey ..).symm
  | false => exact (summary_find? hkey hfirst).symm

end Books

/-! ## Receives -/

namespace Message

theorem setSystem_find? (m : Message) (a : SystemAttribute) (value key : String) :
    (m.setSystem a value).bookkeeping.find? key =
      if key = a.key then some value else m.bookkeeping.find? key :=
  Dict.find?_insert ..

theorem setInternal_find? (m : Message) (a : InternalAttribute) (value : Int) (key : String) :
    (m.setInternal a value).bookkeeping.find? key =
      if key = a.key then some (toString value) else m.bookkeeping.find? key :=
  Dict.find?_insert ..

end Message

namespace Store

variable {books : Books} {m : Message}

/-- The count that the store keeps for itself is not the one that receivers see. -/
theorem localCount_of_books (h : books.Of m) (value : String) :
    (m.setSystem .approximateReceiveCount value).internal? .localReceiveCount =
      Integer.signed? 64 (toString books.localCount) := by
  have hkey : InternalAttribute.localReceiveCount.key ≠ SystemAttribute.approximateReceiveCount.key := by
    decide
  rw [Message.internal?, Message.setSystem_find?, if_neg hkey, h]
  rfl

/-- **Carrying the books on.** A receive counts once more under both counts, and notes its time if it is
    the first. -/
theorem received_books (h : books.Of m) (now : Int) (handle : String) :
    (books.receive now).Of (received m now handle) := by
  -- first the message is counted, then the time is noted
  obtain ⟨counted, hfind, hreceived⟩ : ∃ counted : Message,
      (∀ key, counted.bookkeeping.find? key =
        if key = InternalAttribute.localReceiveCount.key then
          some (toString (books.receive now).localCount)
        else if key = SystemAttribute.approximateReceiveCount.key then
          some (toString (books.receive now).count)
        else books.text? key) ∧
      (received m now handle).bookkeeping =
        (if (counted.system? .approximateFirstReceiveTimestamp).isNone then
          counted.setSystem .approximateFirstReceiveTimestamp (toString now)
        else counted).bookkeeping := by
    refine ⟨(m.setSystem .approximateReceiveCount _).setInternal .localReceiveCount _, ?_, rfl⟩
    intro key
    rw [localCount_of_books h, h.system?, Message.setInternal_find?, Message.setSystem_find?, h]
    rfl
  have hfirst : counted.system? .approximateFirstReceiveTimestamp = books.first?.map toString := by
    rw [Message.system?, hfind]
    rfl
  intro key
  rw [hreceived, hfirst]
  cases hnoted : books.first? with
  | none =>
      show (counted.setSystem .approximateFirstReceiveTimestamp (toString now)).bookkeeping.find? key = _
      rw [Message.setSystem_find?, hfind]
      simp only [Books.receive, Books.text?, hnoted, SystemAttribute.key, InternalAttribute.key]
      split_ifs <;> simp_all
  | some first =>
      show counted.bookkeeping.find? key = _
      rw [hfind]
      simp only [Books.receive, Books.text?, hnoted, SystemAttribute.key, InternalAttribute.key]
      split_ifs <;> simp_all

end Store

namespace HeldMessage

/-- The books of a message behind receives. -/
theorem replay_books {x : HeldMessage} {books : Books} (h : books.Of x.message) (timeout : Nat)
    (rs : List (Int × String)) : (books.receives rs).Of (x.replay timeout rs).message := by
  induction rs using List.reverseRecOn with
  | nil => exact h
  | append_singleton rs r ih =>
      rw [Books.receives_snoc, replay_append, replay_singleton]
      exact Store.received_books ih r.1 r.2

end HeldMessage

end QueueService
