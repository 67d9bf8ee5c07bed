import QueueService.Proofs.Store.Locality
import QueueService.Proofs.Store.Run

/-!
# Queues account by account

A store can be kept account by account, with a map of its queues for each account. There an account comes
into being with its first queue and is left empty when its last queue is deleted. Such a store and one with a
single map of all queues come to the same on all commands: no answer tells an account without queues from
one that is not there, and in both the queues of an account stand in the order of their names.

* `Nested` — the store that is kept account by account, with its operations.
* `Represents` — the two stores hold the same; `Represents.perform` is the step, with one lemma for each
  operation in front of it, and `Represents.record` the run.
* `record_nested` — both have the same log from the beginning.
-/

namespace QueueService.Store

/-! ## Stores that are kept account by account -/

/-- The queues of one account, by their names. -/
abbrev Account := Dict String HeldQueue

/-- The queues of an account whose names begin with a given text, from the first name that is not below it
    for as long as they do. -/
def listIn (start : String) (queues : Account) : List Queue :=
  let fromStart := queues.entries.dropWhile fun e => compare e.1 start == .lt
  (fromStart.takeWhile fun e => start.toList.isPrefixOf e.1.toList).map fun e => e.2.queue

/-- **A store that is kept account by account.** -/
structure Nested where
  accounts : Dict String Account

namespace Nested

variable {α β : Type}

/-- The store without accounts. -/
def empty : Nested := ⟨Dict.empty⟩

/-- Read the queues of an account, if it is there. -/
def read (n : Nested) (account : String) (look : Account → α) : Option α :=
  (n.accounts.find? account).map look

/-- Change the queues of an account. One that is not there comes into being. -/
def write (n : Nested) (account : String) (act : Account → α × Account) : α × Nested :=
  let (a, queues) := act ((n.accounts.find? account).getD Dict.empty)
  (a, ⟨n.accounts.insert account queues⟩)

/-- Change the queues of an account only if it is there. -/
def writeExisting (n : Nested) (account : String) (act : Account → α × Account) : Option α × Nested :=
  match n.accounts.find? account with
  | none => (none, n)
  | some queues =>
    let (a, queues) := act queues
    (some a, ⟨n.accounts.insert account queues⟩)

/-- What the store holds of a queue. -/
def held? (n : Nested) (id : QueueId) : Option HeldQueue :=
  (n.read id.account fun queues => queues.find? id.name).join

/-- The record of a queue, if there is one. -/
def lookup? (n : Nested) (id : QueueId) : Option Queue := (n.held? id).map (·.queue)

/-- Make a queue. Its name must not be taken. -/
def create (n : Nested) (now : Int) (id : QueueId) (attributes : QueueAttributes) :
    Except StoreError Queue × Nested :=
  n.write id.account fun queues =>
    match queues.find? id.name with
    | some _ => (.error (.queueExists id.name), queues)
    | none =>
      let queue := Queue.new id attributes now
      (.ok queue, queues.insert id.name { queue, messages := [] })

/-- The queues of an account whose names begin with a given text. -/
def list (n : Nested) (account start : String) : List Queue :=
  (n.read account (listIn start)).getD []

/-- Delete a queue and whatever it holds. The account stays. -/
def delete (n : Nested) (id : QueueId) : Except StoreError Unit × Nested :=
  let (removed?, n) := n.writeExisting id.account fun queues =>
    ((queues.find? id.name).map fun _ => (), queues.erase id.name)
  match removed?.join with
  | some () => (.ok (), n)
  | none => (.error (.queueNotFound id.name), n)

/-- Do something with a queue that has to exist. -/
def withQueue (n : Nested) (id : QueueId) (act : HeldQueue → Except StoreError (α × HeldQueue)) :
    Except StoreError α × Nested :=
  let (outcome?, n) := n.writeExisting id.account fun queues =>
    match queues.find? id.name with
    | none => (.error (.queueNotFound id.name), queues)
    | some q =>
      match act q with
      | .error e => (.error e, queues)
      | .ok (a, q) => (.ok a, queues.insert id.name q)
  (outcome?.getD (.error (.queueNotFound id.name)), n)

/-- Note what an operation came to. -/
def noted (note : α → β) (r : Except StoreError α × Nested) : Except StoreError β × Nested :=
  (r.1.map note, r.2)

/-- Carry out a command. -/
def perform (n : Nested) : Command → Except StoreError Note × Nested
  | .lookup id => (.ok (.found (n.lookup? id)), n)
  | .create now id attributes => noted .made (n.create now id attributes)
  | .list account start => (.ok (.listed (n.list account start)), n)
  | .delete id => noted (fun _ => .done) (n.delete id)
  | .send now id message => noted (fun _ => .sent (n.lookup? id)) (n.withQueue id (sending now message))
  | .receive now handles id max => noted .given (n.withQueue id (receiving now handles max))
  | .deleteMessage id handle =>
    noted (fun _ => .removed ((n.held? id).bind (bearerIn? handle))) (n.withQueue id (deleting handle))
  | .purge id => noted (fun _ => .done) (n.withQueue id purging)

/-- Carry out commands one after the other and log them. -/
def record (n : Nested) : List Command → List Step × Nested
  | [] => ([], n)
  | c :: rest =>
    let (outcome, n) := n.perform c
    let (log, n) := record n rest
    (⟨c, outcome⟩ :: log, n)

end Nested

/-! ## Stores that hold the same -/

/-- **The same contents.** A queue is held under its account and its name in one store if and only if it is
    held under its identity in the other. -/
def Represents (n : Nested) (s : Store) : Prop := ∀ id, n.held? id = s.held? id

theorem represents_empty : Represents .empty .empty := fun _ => rfl

/-- What an operation comes to on both stores: one answer or one refusal, and stores that hold the same. -/
inductive Agree {α : Type} (s : Store) :
    Except StoreError α × Nested → Except StoreError (α × Store) → Prop
  | granted (a : α) {n : Nested} {s' : Store} (same : Represents n s') : Agree s (.ok a, n) (.ok (a, s'))
  | refused (e : StoreError) {n : Nested} (same : Represents n s) : Agree s (.error e, n) (.error e)

/-- The queues are what a store holds of an account. -/
def HeldOf (s : Store) (account : String) (queues : Account) : Prop :=
  ∀ id : QueueId, id.account = account → queues.find? id.name = s.held? id

section Represents

variable {α β : Type} {n : Nested} {s s' : Store} {id : QueueId} {account : String} {queues : Account}

theorem Represents.heldOf (h : Represents n s) (hqueues : n.accounts.find? account = some queues) :
    HeldOf s account queues := by
  rintro id rfl
  rw [← h, Nested.held?, Nested.read, hqueues]
  rfl

/-- Nothing is held of the queues of an account that is not there. -/
theorem Represents.held?_eq_none (h : Represents n s) (hnone : n.accounts.find? id.account = none) :
    s.held? id = none := by
  rw [← h, Nested.held?, Nested.read, hnone]
  rfl

/-- An account that comes into being has no queues yet. -/
theorem Represents.heldOf_getD (h : Represents n s) (account : String) :
    HeldOf s account ((n.accounts.find? account).getD Dict.empty) := by
  cases hqueues : n.accounts.find? account with
  | some queues => exact h.heldOf hqueues
  | none =>
      rintro id rfl
      exact (h.held?_eq_none hqueues).symm

theorem Nested.held?_insert (n : Nested) (account : String) (queues : Account) (id : QueueId) :
    held? ⟨n.accounts.insert account queues⟩ id =
      if id.account = account then queues.find? id.name else n.held? id := by
  rw [held?, read, Dict.find?_insert]
  split <;> rfl

/-- Where one account is put in place of what it was, the others are as they were. -/
theorem Represents.insert (h : Represents n s) (hqueues : HeldOf s' account queues)
    (hothers : ∀ id : QueueId, id.account ≠ account → s'.held? id = s.held? id) :
    Represents ⟨n.accounts.insert account queues⟩ s' := by
  intro id
  rw [Nested.held?_insert]
  split
  · next haccount => exact hqueues id haccount
  · next haccount => rw [hothers id haccount, h]

theorem Represents.restore (h : Represents n s) (hqueues : HeldOf s account queues) :
    Represents ⟨n.accounts.insert account queues⟩ s :=
  h.insert hqueues fun _ _ => rfl

/-- In one account, queues are told apart by their names. -/
theorem eq_iff_name {id id' : QueueId} (h : id'.account = id.account) : id' = id ↔ id'.name = id.name := by
  obtain ⟨account, name⟩ := id
  obtain ⟨account', name'⟩ := id'
  rw [QueueId.mk.injEq, and_iff_right h]

theorem Represents.put (h : Represents n s) (hqueues : HeldOf s id.account queues) (q : HeldQueue) :
    Represents ⟨n.accounts.insert id.account (queues.insert id.name q)⟩ (s.setHeld id q) := by
  refine h.insert (fun id' haccount => ?_) fun id' haccount => ?_
  · rw [Dict.find?_insert, held?_setHeld, hqueues id' haccount]
    exact if_congr (eq_iff_name haccount).symm rfl rfl
  · exact sameBut_setHeld s id q id' fun hid => haccount (congrArg _ hid)

theorem Represents.drop (h : Represents n s) (hqueues : HeldOf s id.account queues) :
    Represents ⟨n.accounts.insert id.account (queues.erase id.name)⟩ ⟨s.queues.erase id⟩ := by
  refine h.insert (fun id' haccount => ?_) fun id' haccount => ?_
  · rw [Dict.find?_erase, held?_erase, hqueues id' haccount]
    exact if_congr (eq_iff_name haccount).symm rfl rfl
  · rw [held?_erase, if_neg fun hid => haccount (congrArg _ hid)]

/-! ## Listings -/

theorem listIn_eq_filter (start : String) (queues : Account) :
    listIn start queues =
      (queues.entries.filter fun e => start.toList.isPrefixOf e.1.toList).map fun e => e.2.queue := by
  show List.map _ ((queues.entries.dropWhile _).takeWhile _) = _
  rw [takeWhile_dropWhile_eq_filter queues.ascending]
  · intro e he hstart
    rw [beq_eq_false_iff_ne, ne_eq, compare_text_lt]
    exact not_lt_of_prefix (List.isPrefixOf_iff_prefix.mp hstart)
  · intro e he e' he' hlt hhigh
    rw [beq_eq_false_iff_ne] at hhigh ⊢
    exact fun hlow => hhigh (Std.TransCmp.lt_trans hlt hlow)
  · intro e he e' he' hlt hhigh hstart
    rw [beq_eq_false_iff_ne, ne_eq, compare_text_lt] at hhigh
    rw [List.isPrefixOf_iff_prefix] at hstart ⊢
    exact prefix_of_between hhigh (compare_text_lt.mp hlt) hstart

/-- The queues of an account under their identities. -/
def identified (account : String) (queues : Account) : Dict QueueId HeldQueue where
  entries := queues.entries.map fun e => (⟨account, e.1⟩, e.2)
  ascending := by
    unfold Entries.Ascending
    rw [List.pairwise_map]
    refine queues.ascending.imp ?_
    intro e e' hlt
    exact compare_id_lt.mpr (.inr ⟨rfl, hlt⟩)

theorem find?_identified (account : String) (queues : Account) (id : QueueId) :
    (identified account queues).find? id = if id.account = account then queues.find? id.name else none := by
  obtain ⟨account', name⟩ := id
  apply Option.ext
  intro q
  rw [← Dict.mem_entries_iff, identified, List.mem_map]
  constructor
  · rintro ⟨⟨_, _⟩, he, ⟨⟩⟩
    rw [if_pos rfl]
    exact Dict.mem_entries_iff.mp he
  · intro h
    split at h
    · next haccount =>
      subst haccount
      exact ⟨(name, q), Dict.mem_entries_iff.mpr h, rfl⟩
    · cases h

/-- The queues of an account are listed alike among themselves and among the queues of all accounts. -/
theorem HeldOf.listIn (hqueues : HeldOf s account queues) (start : String) :
    listIn start queues = s.list account start := by
  have hlisted : (s.queues.filter fun id _ => isListed account start id) =
      (identified account queues).filter fun id _ => isListed account start id := by
    apply Dict.ext_find?
    intro id
    rw [Dict.find?_filter, Dict.find?_filter, find?_identified]
    by_cases hid : isListed account start id = true
    · obtain ⟨haccount, -⟩ := isListed_iff.mp hid
      rw [if_pos hid, if_pos hid, if_pos haccount, hqueues id haccount]
      rfl
    · rw [if_neg hid, if_neg hid]
  calc Store.listIn start queues
      = (queues.entries.filter fun e => start.toList.isPrefixOf e.1.toList).map fun e => e.2.queue :=
        listIn_eq_filter start queues
    _ = ((identified account queues).filter fun id _ => isListed account start id).entries.map
          fun e => e.2.queue := by
        simp [identified, Dict.filter, List.filter_map, isListed, Function.comp_def]
    _ = (s.queues.filter fun id _ => isListed account start id).entries.map fun e => e.2.queue := by
        rw [hlisted]
    _ = s.list account start := (list_eq_filter s account start).symm

/-! ## Operations -/

theorem Represents.list (h : Represents n s) (account start : String) :
    n.list account start = s.list account start := by
  rw [← (h.heldOf_getD account).listIn start, Nested.list, Nested.read]
  cases n.accounts.find? account <;> rfl

theorem Represents.lookup? (h : Represents n s) (id : QueueId) : n.lookup? id = s.lookup? id := by
  rw [Nested.lookup?, h, Store.lookup?]

theorem Represents.create (h : Represents n s) (now : Int) (id : QueueId) (attributes : QueueAttributes) :
    Agree s (n.create now id attributes) (s.create now id attributes) := by
  have hqueues := h.heldOf_getD id.account
  unfold Nested.create Nested.write Store.create
  simp only [hqueues id rfl]
  cases s.held? id with
  | some q => exact .refused _ (h.restore hqueues)
  | none => exact .granted _ (h.put hqueues _)

theorem Represents.delete (h : Represents n s) (id : QueueId) :
    Agree s (n.delete id) (s.delete id) := by
  unfold Nested.delete Nested.writeExisting Store.delete
  cases haccount : n.accounts.find? id.account with
  | none =>
      rw [h.held?_eq_none haccount]
      exact .refused _ h
  | some queues =>
      have hqueues := h.heldOf haccount
      simp only [hqueues id rfl]
      cases hheld : s.held? id with
      | some q => exact .granted () (h.drop hqueues)
      | none =>
          -- taking out what is not there changes nothing
          refine .refused _ fun id' => ?_
          rw [h.drop hqueues, held?_erase]
          split
          · next hid => rw [hid, hheld]
          · rfl

theorem Represents.withQueue (h : Represents n s) (id : QueueId)
    (act : HeldQueue → Except StoreError (α × HeldQueue)) :
    Agree s (n.withQueue id act) (s.withQueue id act) := by
  unfold Nested.withQueue Nested.writeExisting Store.withQueue
  cases haccount : n.accounts.find? id.account with
  | none =>
      rw [h.held?_eq_none haccount]
      exact .refused _ h
  | some queues =>
      have hqueues := h.heldOf haccount
      simp only [hqueues id rfl]
      cases s.held? id with
      | none => exact .refused _ (h.restore hqueues)
      | some q =>
          rcases hact : act q with e | ⟨a, q'⟩
          · simp only [hact]
            exact .refused e (h.restore hqueues)
          · simp only [hact]
            exact .granted a (h.put hqueues q')

/-! ## Commands -/

theorem Agree.noted {r : Except StoreError α × Nested} {r' : Except StoreError (α × Store)}
    (h : Agree s r r') (note : α → β) :
    Agree s (Nested.noted note r) (r'.map fun a => (note a.1, a.2)) := by
  cases h with
  | granted a same => exact .granted (note a) same
  | refused e same => exact .refused e same

/-- **A command** comes to the same on both stores. -/
theorem Represents.perform (h : Represents n s) (c : Command) :
    (n.perform c).1 = (s.perform c).1 ∧ Represents (n.perform c).2 (s.perform c).2 := by
  have hagree : Agree s (n.perform c) (s.execute c) := by
    cases c with
    | lookup id =>
        rw [Nested.perform, h.lookup?]
        exact .granted _ h
    | list account start =>
        rw [Nested.perform, h.list]
        exact .granted _ h
    | create now id attributes => exact (h.create now id attributes).noted Note.made
    | delete id => exact (h.delete id).noted fun _ => Note.done
    | send now id message =>
        rw [Nested.perform, h.lookup?]
        exact (h.withQueue id _).noted fun _ => Note.sent (s.lookup? id)
    | receive now handles id max => exact (h.withQueue id _).noted Note.given
    | deleteMessage id handle =>
        rw [Nested.perform, h id]
        exact (h.withQueue id _).noted fun _ => Note.removed (s.bearer? id handle)
    | purge id => exact (h.withQueue id _).noted fun _ => Note.done
  unfold Store.perform
  generalize n.perform c = r at hagree ⊢
  generalize s.execute c = r' at hagree ⊢
  cases hagree with
  | granted a same => exact ⟨rfl, same⟩
  | refused e same => exact ⟨rfl, same⟩

/-- **Runs.** From stores that hold the same, all commands come to the same, and they hold the same again. -/
theorem Represents.record (h : Represents n s) (commands : List Command) :
    (n.record commands).1 = (s.record commands).1 ∧
      Represents (n.record commands).2 (s.record commands).2 := by
  induction commands generalizing n s with
  | nil => exact ⟨rfl, h⟩
  | cons c rest ih =>
      obtain ⟨houtcome, hafter⟩ := h.perform c
      obtain ⟨hlog, hend⟩ := ih hafter
      exact ⟨congrArg₂ List.cons (congrArg (Step.mk c) houtcome) hlog, hend⟩

end Represents

/-- **One log.** Whatever is asked of the two stores from the time when they were empty, their logs are the
    same. So all that is read off the logs of a store with one map holds of one with accounts too. -/
theorem record_nested (commands : List Command) :
    (Nested.empty.record commands).1 = (Store.empty.record commands).1 :=
  (represents_empty.record commands).1

end QueueService.Store
