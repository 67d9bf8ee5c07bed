import QueueService.Dict.Lemmas
import QueueService.Store.Basic

/-!
# What the operations of the store change

Each operation that the store grants touches one queue, and says of that queue what it holds afterwards.
`Store.SameBut` is the frame: what is held of all other queues. The lemmas `..._ok` are inversions: from
a granted operation they read off the queue that was there before and the whole store after it.
-/

namespace QueueService.Store

variable {α : Type} {s s' : Store} {id : QueueId}

/-! ## Replacing what is held of one queue -/

theorem held?_setHeld (s : Store) (id id' : QueueId) (q : HeldQueue) :
    (s.setHeld id q).held? id' = if id' = id then some q else s.held? id' :=
  Dict.find?_insert s.queues id id' q

@[simp] theorem held?_setHeld_self (s : Store) (id : QueueId) (q : HeldQueue) :
    (s.setHeld id q).held? id = some q := by
  rw [held?_setHeld, if_pos rfl]

/-- Nothing is held of a queue that was taken away, and of the others what was held before. -/
theorem held?_erase (s : Store) (id id' : QueueId) :
    held? ⟨s.queues.erase id⟩ id' = if id' = id then none else s.held? id' :=
  Dict.find?_erase s.queues id id'

/-- **Frame.** The stores hold the same of all queues but one. -/
def SameBut (id : QueueId) (s s' : Store) : Prop := ∀ id', id' ≠ id → s'.held? id' = s.held? id'

theorem SameBut.refl (id : QueueId) (s : Store) : SameBut id s s := fun _ _ => rfl

theorem SameBut.trans {s'' : Store} (h : SameBut id s s') (h' : SameBut id s' s'') :
    SameBut id s s'' :=
  fun id' hne => (h' id' hne).trans (h id' hne)

theorem sameBut_setHeld (s : Store) (id : QueueId) (q : HeldQueue) :
    SameBut id s (s.setHeld id q) := by
  intro id' hne
  rw [held?_setHeld, if_neg hne]

/-- Changing the messages of a queue leaves all records alone. -/
theorem lookup?_setHeld_messages {q : HeldQueue} (h : s.held? id = some q)
    (messages : List HeldMessage) (id' : QueueId) :
    (s.setHeld id { q with messages }).lookup? id' = s.lookup? id' := by
  unfold lookup?
  rw [held?_setHeld]
  by_cases hid : id' = id
  · subst hid; rw [if_pos rfl, h]; rfl
  · rw [if_neg hid]

/-! ## Granted operations -/

theorem withQueue_ok {act : HeldQueue → Except StoreError (α × HeldQueue)} {a : α}
    (h : s.withQueue id act = .ok (a, s')) :
    ∃ q q', s.held? id = some q ∧ act q = .ok (a, q') ∧ s' = s.setHeld id q' := by
  unfold withQueue at h
  split at h
  · cases h
  · next q hq =>
    split at h
    · cases h
    · next a' q' hact =>
      cases h
      exact ⟨q, q', hq, hact, rfl⟩

theorem withQueue_error {act : HeldQueue → Except StoreError (α × HeldQueue)} {e : StoreError}
    {q : HeldQueue} (hq : s.held? id = some q) (h : s.withQueue id act = .error e) :
    act q = .error e := by
  unfold withQueue at h
  rw [hq] at h
  split at h
  · next hnone => cases hnone
  · next q' hsome =>
    cases hsome
    split at h
    · next hact => cases h; exact hact
    · cases h

/-- A queue is made only where there is none. -/
theorem create_ok {now : Int} {attributes : QueueAttributes} {queue : Queue}
    (h : s.create now id attributes = .ok (queue, s')) :
    s.held? id = none ∧ queue = Queue.new id attributes now ∧
      s' = s.setHeld id { queue, messages := [] } := by
  unfold create at h
  split at h
  · cases h
  · next hnone =>
    cases h
    exact ⟨hnone, rfl, rfl⟩

/-- A send appends one message. -/
theorem send_ok {now : Int} {m : Message} (h : s.send now id m = .ok ((), s')) :
    ∃ q, s.held? id = some q ∧
      s' = s.setHeld id { q with messages := q.messages ++ [hold now m q] } := by
  obtain ⟨q, q', hq, hact, hs⟩ := withQueue_ok h
  cases hact
  exact ⟨q, hq, hs⟩

/-- A purge empties the queue and keeps its record. -/
theorem purge_ok (h : s.purge id = .ok ((), s')) :
    ∃ q, s.held? id = some q ∧ s' = s.setHeld id { q with messages := [] } := by
  obtain ⟨q, q', hq, hact, hs⟩ := withQueue_ok h
  cases hact
  exact ⟨q, hq, hs⟩

/-- A deletion takes away what is held of a queue. -/
theorem delete_ok (h : s.delete id = .ok ((), s')) :
    (∃ q, s.held? id = some q) ∧ s' = ⟨s.queues.erase id⟩ := by
  unfold delete at h
  split at h
  · cases h
  · next q hq =>
    cases h
    exact ⟨⟨q, hq⟩, rfl⟩

/-- A receive drops the expired messages of a queue and hands out some of the others. -/
theorem receive_ok {now : Int} {handles : Nat → String} {max : Nat} {given : List Message}
    (h : s.receive now handles id max = .ok (given, s')) :
    ∃ q kept, s.held? id = some q ∧
      deliver now (now + (q.queue.attributes.visibilityTimeout : Int) * 1000) handles 0 max
        (q.messages.filter fun x => now < x.expiresAt) = (given, kept) ∧
      s' = s.setHeld id { q with messages := kept } := by
  obtain ⟨q, q', hq, hact, hs⟩ := withQueue_ok h
  cases hact
  exact ⟨q, _, hq, rfl, hs⟩

/-- A deletion by handle takes out the first message that has the handle. -/
theorem deleteMessage_ok {handle : String} (h : s.deleteMessage id handle = .ok ((), s')) :
    ∃ q before x after, s.held? id = some q ∧ q.messages = before ++ x :: after ∧
      x.message.receiptHandle? = some handle ∧
      (∀ y ∈ before, y.message.receiptHandle? ≠ some handle) ∧
      s' = s.setHeld id { q with messages := before ++ after } := by
  obtain ⟨q, q', hq, hact, hs⟩ := withQueue_ok h
  unfold deleting at hact
  split at hact
  · cases hact
  · next i hi =>
    obtain ⟨hlt, hbears, hfirst⟩ := List.findIdx?_eq_some_iff_getElem.mp hi
    cases hact
    refine ⟨q, q.messages.take i, q.messages[i], q.messages.drop (i + 1), hq, ?_, ?_, ?_, ?_⟩
    · rw [List.getElem_cons_drop, List.take_append_drop]
    · simpa using hbears
    · intro y hy
      obtain ⟨j, hj, rfl⟩ := List.mem_take_iff_getElem.mp hy
      simpa using hfirst j (by omega)
    · rw [hs, List.eraseIdx_eq_take_drop_succ]

/-- A deletion by handle from a queue that is held fails only where no message has the handle. -/
theorem deleteMessage_error {handle : String} {e : StoreError} {q : HeldQueue}
    (hq : s.held? id = some q) (h : s.deleteMessage id handle = .error e) :
    e = .handleNotFound handle ∧ ∀ x ∈ q.messages, x.message.receiptHandle? ≠ some handle := by
  have hact := withQueue_error hq h
  unfold deleting at hact
  split at hact
  · next hnone =>
    cases hact
    refine ⟨rfl, fun x hx => ?_⟩
    simpa using List.findIdx?_eq_none_iff.mp hnone x hx
  · cases hact

/-! ## The shapes of a change -/

/-- **One queue more.** There was no such queue, now there is one with the given attributes and without
    messages, and all other queues are as they were. -/
structure Gains (id : QueueId) (attributes : QueueAttributes) (s s' : Store) : Prop where
  absent : s.held? id = none
  present : ∃ q, s'.held? id = some q ∧ q.queue.id = id ∧ q.queue.attributes = attributes ∧
    q.messages = []
  frame : SameBut id s s'

theorem gains_setHeld (h : s.held? id = none) (attributes : QueueAttributes) (now : Int) :
    Gains id attributes s
      (s.setHeld id { queue := Queue.new id attributes now, messages := [] }) :=
  ⟨h, ⟨_, held?_setHeld_self .., rfl, rfl, rfl⟩, sameBut_setHeld _ _ _⟩

theorem gains_of_create {now : Int} {attributes : QueueAttributes} {queue : Queue}
    (h : s.create now id attributes = .ok (queue, s')) : Gains id attributes s s' := by
  obtain ⟨hnone, rfl, rfl⟩ := create_ok h
  exact gains_setHeld hnone attributes now

/-- **One queue emptied.** The queue has lost its messages and kept its record, and all other queues are
    as they were. -/
structure Empties (id : QueueId) (s s' : Store) : Prop where
  own : ∃ q, s.held? id = some q ∧ s'.held? id = some { q with messages := [] }
  frame : SameBut id s s'

theorem empties_of_purge (h : s.purge id = .ok ((), s')) : Empties id s s' := by
  obtain ⟨q, hq, rfl⟩ := purge_ok h
  exact ⟨⟨q, hq, held?_setHeld_self ..⟩, sameBut_setHeld _ _ _⟩

/-- **Messages more.** The queue, if it is held at all, has the given messages behind those that it had,
    and all other queues are as they were. -/
structure Appends (id : QueueId) (messages : List HeldMessage) (s s' : Store) : Prop where
  own : s'.held? id = (s.held? id).map fun q => { q with messages := q.messages ++ messages }
  frame : SameBut id s s'

theorem Appends.refl (id : QueueId) (s : Store) : Appends id [] s s := by
  refine ⟨?_, SameBut.refl id s⟩
  cases s.held? id with
  | none => rfl
  | some q => rw [Option.map_some, List.append_nil]

/-- What was appended first stands first. -/
theorem Appends.trans {s'' : Store} {messages more : List HeldMessage} (h : Appends id messages s s')
    (h' : Appends id more s' s'') : Appends id (messages ++ more) s s'' := by
  refine ⟨?_, h.frame.trans h'.frame⟩
  rw [h'.own, h.own]
  cases s.held? id with
  | none => rfl
  | some q => rw [Option.map_some, Option.map_some, Option.map_some, List.append_assoc]

theorem appends_setHeld {q : HeldQueue} (h : s.held? id = some q) (messages : List HeldMessage) :
    Appends id messages s (s.setHeld id { q with messages := q.messages ++ messages }) := by
  refine ⟨?_, sameBut_setHeld _ _ _⟩
  rw [held?_setHeld_self, h, Option.map_some]

/-- Emptying a queue leaves all records alone. -/
theorem Empties.lookup? (h : Empties id s s') (id' : QueueId) : s'.lookup? id' = s.lookup? id' := by
  obtain ⟨q, hq, hq'⟩ := h.own
  unfold Store.lookup?
  by_cases hid : id' = id
  · subst hid; rw [hq, hq']; rfl
  · rw [h.frame id' hid]

end QueueService.Store
