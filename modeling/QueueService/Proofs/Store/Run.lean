import QueueService.Proofs.Check
import QueueService.Proofs.Store.Delivery

/-!
# Runs of the store

Operations of the store carried out one after the other, and the log of them. The log has a step for
each operation, granted or not, with what the operation took from the world and what it answered; of a send
it also notes the record of the queue that took the message, and of a deletion by handle which message
had the handle. All that later modules say of the past of a store is read off its log.

## Contents
- `Command`, `Note`, `perform`: the operations as data.
- `Granted`: all that a granted command can do.
- `Step`, `Path`, `Run`: logs, with one induction principle, `Path.invariant`.
- `Step.sends`, `Step.returns`, `receipts`: what a log tells of messages.
-/

namespace QueueService.Store

/-! ## Commands -/

/-- The operations of the store, each with what it takes from the world. -/
inductive Command
  | lookup (id : QueueId)
  | create (now : Int) (id : QueueId) (attributes : QueueAttributes)
  | list (account start : String)
  | delete (id : QueueId)
  | send (now : Int) (id : QueueId) (message : Message)
  | receive (now : Int) (handles : Nat → String) (id : QueueId) (max : Nat)
  | deleteMessage (id : QueueId) (handle : String)
  | purge (id : QueueId)

/-- What is noted of a granted command. -/
inductive Note
  | found (queue? : Option Queue)
  | made (queue : Queue)
  | listed (queues : List Queue)
  /-- The record of the queue that took the message. -/
  | sent (queue? : Option Queue)
  | given (messages : List Message)
  /-- The identifier of the message that had the handle. -/
  | removed (id? : Option String)
  | done

/-- The identifier of the first message in a queue that has a handle. -/
def bearerIn? (handle : String) (q : HeldQueue) : Option String :=
  (q.messages.find? fun x => x.message.receiptHandle? == some handle).map (·.message.id)

/-- The identifier of the first message of a queue that has a handle. -/
def bearer? (s : Store) (id : QueueId) (handle : String) : Option String :=
  (s.held? id).bind (bearerIn? handle)

/-- Carry out a command. -/
def execute (s : Store) : Command → Except StoreError (Note × Store)
  | .lookup id => .ok (.found (s.lookup? id), s)
  | .create now id attributes => (s.create now id attributes).map fun r => (.made r.1, r.2)
  | .list account start => .ok (.listed (s.list account start), s)
  | .delete id => (s.delete id).map fun r => (.done, r.2)
  | .send now id message => (s.send now id message).map fun r => (.sent (s.lookup? id), r.2)
  | .receive now handles id max => (s.receive now handles id max).map fun r => (.given r.1, r.2)
  | .deleteMessage id handle =>
    (s.deleteMessage id handle).map fun r => (.removed (s.bearer? id handle), r.2)
  | .purge id => (s.purge id).map fun r => (.done, r.2)

/-- Carry out a command on a store, which stays as it is if the command fails. -/
def perform (s : Store) (c : Command) : Except StoreError Note × Store :=
  match s.execute c with
  | .ok (note, s') => (.ok note, s')
  | .error e => (.error e, s)

/-- **All that a granted command can do.** -/
inductive Granted (s : Store) : Command → Note → Store → Prop
  | lookup (id : QueueId) : Granted s (.lookup id) (.found (s.lookup? id)) s
  | list (account start : String) : Granted s (.list account start) (.listed (s.list account start)) s
  | create {now : Int} {id : QueueId} {attributes : QueueAttributes} (absent : s.held? id = none) :
      Granted s (.create now id attributes) (.made (Queue.new id attributes now))
        (s.setHeld id { queue := Queue.new id attributes now, messages := [] })
  | delete {id : QueueId} {q : HeldQueue} (held : s.held? id = some q) :
      Granted s (.delete id) .done ⟨s.queues.erase id⟩
  | send {now : Int} {id : QueueId} {message : Message} {q : HeldQueue} (held : s.held? id = some q) :
      Granted s (.send now id message) (.sent (some q.queue))
        (s.setHeld id { q with messages := q.messages ++ [hold now message q] })
  | receive {now : Int} {handles : Nat → String} {id : QueueId} {max : Nat} {q : HeldQueue}
      {given : List Message} {kept : List HeldMessage} (held : s.held? id = some q)
      (delivery : Delivery q.queue.attributes.visibilityTimeout now
        (q.messages.filter fun x => now < x.expiresAt) given kept) :
      Granted s (.receive now handles id max) (.given given) (s.setHeld id { q with messages := kept })
  | deleteMessage {id : QueueId} {handle : String} {q : HeldQueue} {before after : List HeldMessage}
      {x : HeldMessage} (held : s.held? id = some q) (split : q.messages = before ++ x :: after)
      (bears : x.message.receiptHandle? = some handle) :
      Granted s (.deleteMessage id handle) (.removed (some x.message.id))
        (s.setHeld id { q with messages := before ++ after })
  | purge {id : QueueId} {q : HeldQueue} (held : s.held? id = some q) :
      Granted s (.purge id) .done (s.setHeld id { q with messages := [] })

/-- The one queue that a command can change. -/
def Command.target : Command → Option QueueId
  | .create _ id _ => some id
  | .delete id => some id
  | .send _ id _ => some id
  | .receive _ _ id _ => some id
  | .deleteMessage id _ => some id
  | .purge id => some id
  | .lookup _ => none
  | .list _ _ => none

/-- A command leaves all other queues alone. -/
theorem Granted.held?_of_target {s s' : Store} {c : Command} {note : Note} {id : QueueId}
    (h : Granted s c note s') (hother : c.target ≠ some id) : s'.held? id = s.held? id := by
  have hne : ∀ {id'}, c.target = some id' → id ≠ id' := by
    rintro id' htarget rfl
    exact hother htarget
  cases h with
  | lookup => rfl
  | list => rfl
  | create => exact sameBut_setHeld s _ _ id (hne rfl)
  | delete => rw [held?_erase, if_neg (hne rfl)]
  | send => exact sameBut_setHeld s _ _ id (hne rfl)
  | receive => exact sameBut_setHeld s _ _ id (hne rfl)
  | deleteMessage => exact sameBut_setHeld s _ _ id (hne rfl)
  | purge => exact sameBut_setHeld s _ _ id (hne rfl)

section Perform

variable {s s' : Store} {c : Command} {note : Note}

/-- The bearer of a handle is the message that a deletion takes out. -/
theorem bearer?_of_split {id : QueueId} {handle : String} {q : HeldQueue} {x : HeldMessage}
    {before after : List HeldMessage} (held : s.held? id = some q)
    (split : q.messages = before ++ x :: after) (bears : x.message.receiptHandle? = some handle)
    (first : ∀ y ∈ before, y.message.receiptHandle? ≠ some handle) :
    s.bearer? id handle = some x.message.id := by
  have hfind : q.messages.find? (fun x => x.message.receiptHandle? == some handle) = some x := by
    rw [List.find?_eq_some_iff_append]
    refine ⟨by simpa using bears, before, after, split, fun y hy => ?_⟩
    simpa using first y hy
  rw [bearer?, held, Option.bind_some, bearerIn?, hfind, Option.map_some]

theorem execute_granted (h : s.execute c = .ok (note, s')) : Granted s c note s' := by
  cases c with
  | lookup id => cases h; exact .lookup id
  | list account start => cases h; exact .list account start
  | create now id attributes =>
      obtain ⟨⟨queue, s₁⟩, hcreate, heq⟩ := exceptMap_ok h
      obtain ⟨habsent, rfl, rfl⟩ := create_ok hcreate
      cases heq; exact .create habsent
  | delete id =>
      obtain ⟨⟨_, s₁⟩, hdelete, heq⟩ := exceptMap_ok h
      obtain ⟨⟨q, hq⟩, rfl⟩ := delete_ok hdelete
      cases heq; exact .delete hq
  | send now id message =>
      obtain ⟨⟨_, s₁⟩, hsend, heq⟩ := exceptMap_ok h
      obtain ⟨q, hq, rfl⟩ := send_ok hsend
      rw [lookup?, hq] at heq
      cases heq; exact .send hq
  | receive now handles id max =>
      obtain ⟨⟨given, s₁⟩, hreceive, heq⟩ := exceptMap_ok h
      obtain ⟨q, kept, hq, hdeliver, rfl⟩ := receive_ok hreceive
      cases heq; exact .receive hq (deliver_delivery hdeliver)
  | deleteMessage id handle =>
      obtain ⟨⟨_, s₁⟩, hdelete, heq⟩ := exceptMap_ok h
      obtain ⟨q, before, x, after, hq, hsplit, hbears, hfirst, rfl⟩ := deleteMessage_ok hdelete
      rw [bearer?_of_split hq hsplit hbears hfirst] at heq
      cases heq; exact .deleteMessage hq hsplit hbears
  | purge id =>
      obtain ⟨⟨_, s₁⟩, hpurge, heq⟩ := exceptMap_ok h
      obtain ⟨q, hq, rfl⟩ := purge_ok hpurge
      cases heq; exact .purge hq

theorem perform_ok (h : s.perform c = (.ok note, s')) : Granted s c note s' := by
  unfold perform at h
  split at h
  · next hexecute => cases h; exact execute_granted hexecute
  · cases h

/-- A command that fails leaves the store alone. -/
theorem perform_error {e : StoreError} (h : s.perform c = (.error e, s')) : s' = s := by
  unfold perform at h
  split at h
  · cases h
  · cases h; rfl

theorem perform_of_execute (h : s.execute c = .ok (note, s')) : s.perform c = (.ok note, s') := by
  rw [perform, h]

end Perform

/-! ## Logs -/

/-- A command and what came of it. -/
structure Step where
  command : Command
  outcome : Except StoreError Note

/-- The log leads from one store to another. -/
inductive Path (s : Store) : List Step → Store → Prop
  | start : Path s [] s
  | next {log : List Step} {s₁ s' : Store} {c : Command} {outcome : Except StoreError Note}
      (past : Path s log s₁) (done : s₁.perform c = (outcome, s')) : Path s (log ++ [⟨c, outcome⟩]) s'

/-- Carry out commands one after the other and log them. -/
def record (s : Store) : List Command → List Step × Store
  | [] => ([], s)
  | c :: rest =>
    let (outcome, s₁) := s.perform c
    let (log, s') := record s₁ rest
    (⟨c, outcome⟩ :: log, s')

/-- The log of a store from the time when it was empty. -/
abbrev Run (log : List Step) (s : Store) : Prop := Path .empty log s

namespace Path

variable {s s₁ s' : Store} {log more : List Step}

/-- What holds at the start and is kept by each command, refused or granted, holds at the end. -/
theorem invariant {P : List Step → Store → Prop} (start : P [] s)
    (refused : ∀ ⦃log s₁ c e⦄, Path s log s₁ → P log s₁ → P (log ++ [⟨c, .error e⟩]) s₁)
    (granted : ∀ ⦃log s₁ c note s'⦄, Path s (log ++ [⟨c, .ok note⟩]) s' → Path s log s₁ →
      P log s₁ → Granted s₁ c note s' → P (log ++ [⟨c, .ok note⟩]) s')
    (h : Path s log s') : P log s' := by
  induction h with
  | start => exact start
  | @next log s₁ s' c outcome past done ih =>
      cases outcome with
      | error e =>
          obtain rfl := perform_error done
          exact refused past ih
      | ok note => exact granted (past.next done) past ih (perform_ok done)

theorem trans (h : Path s log s₁) (h' : Path s₁ more s') : Path s (log ++ more) s' := by
  induction h' with
  | start => rwa [List.append_nil]
  | next past done ih =>
      rw [← List.append_assoc]
      exact ih.next done

theorem cons {step : Step} (h : s.perform step.command = (step.outcome, s₁)) (h' : Path s₁ log s') :
    Path s (step :: log) s' :=
  (Path.start.next h).trans h'

/-- Whatever the commands, there is a log of them. -/
theorem of_record (s : Store) (commands : List Command) :
    Path s (s.record commands).1 (s.record commands).2 := by
  induction commands generalizing s with
  | nil => exact .start
  | cons c rest ih => exact (ih (s.perform c).2).cons rfl

theorem single {c : Command} {note : Note} (h : s.execute c = .ok (note, s')) :
    Path s [⟨c, .ok note⟩] s' :=
  Path.start.next (perform_of_execute h)

/-- A log that leads somewhere leads through each of its steps. -/
theorem split {before after : List Step} {step : Step} (h : Path s (before ++ step :: after) s') :
    ∃ s₁ s₂, Path s before s₁ ∧ s₁.perform step.command = (step.outcome, s₂) ∧ Path s₂ after s' := by
  generalize hlog : before ++ step :: after = log at h
  induction h generalizing after with
  | start => exact absurd hlog (by simp)
  | @next log s₁ s' c outcome past done ih =>
      -- the step is the last of the log, or the last of the log is behind it
      rcases List.eq_nil_or_concat after with rfl | ⟨earlier, last, rfl⟩
      · obtain ⟨rfl, hstep⟩ := List.append_inj' hlog rfl
        cases hstep
        exact ⟨s₁, s', past, done, .start⟩
      · rw [List.concat_eq_append, ← List.cons_append, ← List.append_assoc] at hlog
        obtain ⟨hearlier, hlast⟩ := List.append_inj' hlog rfl
        cases hlast
        obtain ⟨s₂, s₃, hbefore, hstep, hafter⟩ := ih hearlier
        exact ⟨s₂, s₃, hbefore, hstep, List.concat_eq_append ▸ hafter.next done⟩

end Path

/-- Queues are held under their own identities. -/
def Keyed (s : Store) : Prop := ∀ ⦃id q⦄, s.held? id = some q → q.queue.id = id

theorem Keyed.id_of_lookup? {s : Store} (h : s.Keyed) {id : QueueId} {queue : Queue}
    (hqueue : s.lookup? id = some queue) : queue.id = id := by
  obtain ⟨q, hq, rfl⟩ := Option.map_eq_some_iff.mp hqueue
  exact h hq

theorem Keyed.setHeld {s : Store} (h : s.Keyed) {id : QueueId} {q : HeldQueue}
    (hid : q.queue.id = id) : (s.setHeld id q).Keyed := by
  intro id' q' hq'
  by_cases heq : id' = id
  · subst heq
    rw [held?_setHeld_self] at hq'
    cases hq'
    exact hid
  · rw [sameBut_setHeld s id q id' heq] at hq'
    exact h hq'

/-- A granted command keeps queues under their own identities. -/
theorem Granted.keyed {s s' : Store} {c : Command} {note : Note} (hg : Granted s c note s')
    (h : s.Keyed) : s'.Keyed := by
  cases hg with
  | lookup | list => exact h
  | create => exact h.setHeld rfl
  | delete =>
      intro id q hq
      rw [held?_erase] at hq
      split at hq
      · cases hq
      · exact h hq
  | send held | receive held | deleteMessage held | purge held =>
      have hid := h held
      exact h.setHeld hid

theorem Path.keyed {s s' : Store} {log : List Step} (path : Path s log s') (h : s.Keyed) :
    s'.Keyed :=
  Path.invariant (P := fun _ s' => s'.Keyed) h (fun _ _ _ _ _ ih => ih)
    (fun _ _ _ _ _ _ _ ih hg => hg.keyed ih) path

/-! ## What a log tells -/

/-- A message as it was handed over to the store, with the record of the queue that took it. -/
structure Sending where
  id : QueueId
  queue : Queue
  now : Int
  message : Message

namespace Sending

variable (x : Sending) (rs rs' : List (Int × String))

/-- When a message can be received for the first time. -/
def visibleAt : Int := sentAt x.message x.now + (x.message.internal? .delaySeconds).getD 0 * 1000

/-- When a message expires: its own retention decides, or else that of its queue. -/
def expiresAt : Int :=
  sentAt x.message x.now + (x.message.internal? .messageRetentionPeriod).getD
    (x.queue.attributes.messageRetentionPeriod : Int) * 1000

/-- A message as its queue takes it in. -/
def taken : HeldMessage :=
  { message := x.message, visibleAt := x.visibleAt, expiresAt := x.expiresAt }

/-- A message in its queue after receives, in order. -/
def after : HeldMessage := x.taken.replay x.queue.attributes.visibilityTimeout rs

theorem hold_eq_taken (now : Int) (id : QueueId) (message : Message) (q : HeldQueue) :
    hold now message q = taken ⟨id, q.queue, now, message⟩ := rfl

theorem after_append :
    x.after (rs ++ rs') = (x.after rs).replay x.queue.attributes.visibilityTimeout rs' :=
  HeldMessage.replay_append ..

@[simp] theorem after_id : (x.after rs).message.id = x.message.id := HeldMessage.replay_id ..

@[simp] theorem after_letter : (x.after rs).message.letter = x.message.letter :=
  HeldMessage.replay_letter ..

@[simp] theorem after_expiresAt : (x.after rs).expiresAt = x.expiresAt :=
  HeldMessage.replay_expiresAt ..

end Sending

namespace Step

/-- The message that a step put into a queue, if it did. -/
def sends : Step → List Sending
  | ⟨.send now id message, .ok (.sent (some queue))⟩ => [⟨id, queue, now, message⟩]
  | _ => []

/-- The messages that a step handed out, each with the reading of the clock. -/
def returns : Step → List (Int × Message)
  | ⟨.receive now _ _ _, .ok (.given given)⟩ => given.map (now, ·)
  | _ => []

end Step

/-- Only a granted receive hands messages out. -/
theorem Step.mem_returns {step : Step} {r : Int × Message} (h : r ∈ step.returns) :
    ∃ handles id max given,
      step = ⟨.receive r.1 handles id max, .ok (.given given)⟩ ∧ r.2 ∈ given := by
  unfold Step.returns at h
  split at h
  · obtain ⟨m, hm, rfl⟩ := List.mem_map.mp h
    exact ⟨_, _, _, _, rfl, hm⟩
  · cases h

/-- The messages that were put into queues. -/
def sendings (log : List Step) : List Sending := log.flatMap Step.sends

/-- The messages that were handed out, each with the reading of the clock. -/
def returned (log : List Step) : List (Int × Message) := log.flatMap Step.returns

/-- The readings at which one message was handed out, and its handles. -/
def receipts (id : String) (log : List Step) : List (Int × String) := trail id (byId (returned log))

section Append

variable (log more : List Step)

@[simp] theorem sendings_append : sendings (log ++ more) = sendings log ++ sendings more :=
  List.flatMap_append

@[simp] theorem returned_append : returned (log ++ more) = returned log ++ returned more :=
  List.flatMap_append

theorem receipts_append (id : String) :
    receipts id (log ++ more) = receipts id log ++ receipts id more := by
  rw [receipts, returned_append, byId, List.map_append, trail_append]
  rfl

@[simp] theorem sendings_singleton (step : Step) : sendings [step] = step.sends :=
  List.flatMap_singleton ..

@[simp] theorem returned_singleton (step : Step) : returned [step] = step.returns :=
  List.flatMap_singleton ..

end Append

theorem receipts_singleton (id : String) (step : Step) :
    receipts id [step] = trail id (byId step.returns) := by
  rw [receipts, returned_singleton]

/-- A step that hands nothing out tells of no message. -/
theorem receipts_of_returns_nil (id : String) {step : Step} (h : step.returns = []) :
    receipts id [step] = [] := by
  rw [receipts_singleton, h]
  rfl

/-- A message that was never handed out has no receipts. -/
theorem receipts_eq_nil {id : String} {log : List Step} (h : ∀ r ∈ returned log, r.2.id ≠ id) :
    receipts id log = [] := by
  refine trail_eq_nil fun hmem => ?_
  rw [byId, List.map_map] at hmem
  obtain ⟨r, hr, hid⟩ := List.mem_map.mp hmem
  exact h r hr hid

end QueueService.Store
