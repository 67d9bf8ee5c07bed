import QueueService.Proofs.Operation
import QueueService.Proofs.Store.Effect
import QueueService.Service.Queues

/-!
# Creating a queue

What it means that a request to create a queue is answered. Creation is a race of three calls: a
look-up, the creation itself if nothing was found, and a second look-up if the creation was refused
because the queue is there. `Placement` says all that the race can come to, and everything else follows
from it.

* `createQueue_sound_iff` — behind an answer the store holds a queue that matches the request, except
  where the queue is said to exist and neither look-up shows it; `createQueue_answers_without_queue` is
  that exception.
* `createQueue_reliable` — on a store without faults the request is answered exactly if there is no such
  queue or a matching one, only the first of these changes the store, and whatever was answered once is
  answered again.
-/

namespace QueueService

open Operation

/-- The store holds a queue whose comparable attributes are those of the given ones. -/
def Store.Matches (s : Store) (id : QueueId) (attributes : QueueAttributes) : Prop :=
  ∃ queue, s.lookup? id = some queue ∧ queue.attributes.comparable = attributes.comparable

/-- A queue that was just made matches the request for it. -/
theorem Store.Gains.matches {s s' : Store} {id : QueueId} {attributes : QueueAttributes}
    (h : s.Gains id attributes s') : s'.Matches id attributes := by
  obtain ⟨q, hq, -, hattributes, -⟩ := h.present
  refine ⟨q.queue, ?_, by rw [hattributes]⟩
  unfold Store.lookup?
  rw [hq]; rfl

/-- The second store has every queue that the first has. -/
def Store.Keeps (s s' : Store) : Prop := ∀ id, (s.lookup? id).isSome → (s'.lookup? id).isSome

theorem Store.Gains.keeps {s s' : Store} {id : QueueId} {attributes : QueueAttributes}
    (h : s.Gains id attributes s') : s.Keeps s' := by
  intro id' hsome
  have hne : id' ≠ id := by
    rintro rfl
    unfold Store.lookup? at hsome
    rw [h.absent] at hsome
    cases hsome
  unfold Store.lookup? at hsome ⊢
  rw [h.frame id' hne]
  exact hsome

/-! ## Making a queue without faults -/

namespace Backend

variable {s : Store} {id : QueueId}

theorem createQueue_of_absent (now : Int) (attributes : QueueAttributes) (h : s.lookup? id = none) :
    (createQueue now id attributes).runOn (reliable s) =
      (.ok (Queue.new id attributes now),
        reliable (s.setHeld id { queue := Queue.new id attributes now, messages := [] })) := by
  have hnone : s.held? id = none := Option.map_eq_none_iff.mp h
  rw [createQueue, call_of_nil _ _ rfl, reliable_store, Store.create, hnone]
  rfl

theorem createQueue_of_present (now : Int) (attributes : QueueAttributes) {queue : Queue}
    (h : s.lookup? id = some queue) :
    (createQueue now id attributes).runOn (reliable s) = (.error (.queueExists id.name), reliable s) := by
  obtain ⟨q, hq, -⟩ := Option.map_eq_some_iff.mp h
  rw [createQueue, call_of_nil _ _ rfl, reliable_store, Store.create, hq]

end Backend

namespace Service

/-! ## Checking a request

Checking reads the store only to see whether the target of a redrive policy exists. -/

theorem reads_redrivePolicy (limits : Limits) (caller : Caller) (document : String) :
    Reads (redrivePolicy limits caller document) := by
  refine (Reads.ofExcept _).bind fun policy => (Reads.lookupQueue _).bind fun found => ?_
  cases found with
  | some _ => exact Reads.pure _
  | none => exact Reads.throw _

theorem reads_setAttribute (limits : Limits) (caller : Caller) (attributes : QueueAttributes)
    (name value : String) : Reads (setAttribute limits caller attributes name value) := by
  refine (Reads.ofExcept _).bind fun a => ?_
  split
  · exact (Reads.ofExcept _).bind fun _ => Reads.pure _
  · split
    · exact (Reads.ofExcept _).bind fun _ => Reads.pure _
    · split
      · exact (reads_redrivePolicy ..).bind fun _ => Reads.pure _
      · exact Reads.pure _

theorem reads_setAttributes (limits : Limits) (caller : Caller) (attributes : QueueAttributes)
    (supplied : List (String × String)) :
    Reads (setAttributes limits caller attributes supplied) := by
  induction supplied generalizing attributes with
  | nil => exact Reads.pure _
  | cons head rest ih => exact (reads_setAttribute ..).bind fun attributes => ih attributes

theorem reads_queueAttributes (limits : Limits) (caller : Caller)
    (supplied : List (String × String)) : Reads (queueAttributes limits caller supplied) :=
  reads_setAttributes ..

/-- **A checked request.** The name and the attributes that a request comes to, and the backend behind
    the check. -/
structure Checked (desk : Desk) (caller : Caller) (name? : Option String)
    (supplied : List (String × String)) (b : Backend) (name : String) (attributes : QueueAttributes)
    (b' : Backend) : Prop where
  name : queueName desk.limits name? = .ok name
  attributes : (queueAttributes desk.limits caller supplied).runOn b = (.ok attributes, b')

theorem Checked.store {desk : Desk} {caller : Caller} {name? : Option String}
    {supplied : List (String × String)} {b b' : Backend} {name : String} {attributes : QueueAttributes}
    (hc : Checked desk caller name? supplied b name attributes b') : b'.store = b.store :=
  (reads_queueAttributes _ _ _ hc.attributes).1

/-! ## The race -/

/-- **All that the race can come to.** -/
inductive Placement (now : Int) (id : QueueId) (attributes : QueueAttributes) (b : Backend) :
    Except ServiceError (Option Queue) → Backend → Prop
  /-- The first look-up shows a queue. -/
  | found {queue : Queue} {b' : Backend}
      (look : (Backend.lookupQueue id).runOn b = (.ok (some queue), b')) :
      Placement now id attributes b (.ok (some queue)) b'
  /-- There was none, and now it is made. -/
  | created {queue : Queue} {b₁ b' : Backend}
      (look : (Backend.lookupQueue id).runOn b = (.ok none, b₁))
      (make : (Backend.createQueue now id attributes).runOn b₁ = (.ok queue, b')) :
      Placement now id attributes b (.ok none) b'
  /-- There was none, but creation is refused, and the second look-up decides. -/
  | overtaken {taken : String} {found? : Option Queue} {b₁ b₂ b' : Backend}
      (look : (Backend.lookupQueue id).runOn b = (.ok none, b₁))
      (make : (Backend.createQueue now id attributes).runOn b₁ = (.error (.queueExists taken), b₂))
      (again : (Backend.lookupQueue id).runOn b₂ = (.ok found?, b')) :
      Placement now id attributes b (.ok found?) b'
  /-- A call failed for another reason. -/
  | failed {cause : StoreError} {b' : Backend} (store : b'.store = b.store) :
      Placement now id attributes b (.error (.store cause)) b'

theorem existingOrCreate_placement {now : Int} {id : QueueId} {attributes : QueueAttributes}
    {b b' : Backend} {r : Except ServiceError (Option Queue)}
    (h : (existingOrCreate now id attributes).runOn b = (r, b')) :
    Placement now id attributes b r b' := by
  unfold existingOrCreate at h
  rcases hlook : (Backend.lookupQueue id).runOn b with ⟨cause | queue?, b₁⟩
  · -- the first look-up fails
    rw [call_bind_of_error hlook] at h
    cases h
    exact .failed (Backend.lookupQueue_store hlook)
  rw [call_bind_of_ok hlook] at h
  cases queue? with
  | some queue => cases h; exact .found hlook
  | none =>
      have hs : b₁.store = b.store := Backend.lookupQueue_store hlook
      rcases hmake : (Backend.createQueue now id attributes).runOn b₁ with ⟨cause | queue, b₂⟩
      · have hs' : b₂.store = b₁.store := Backend.call_error_store hmake
        simp only [attempt_bind hmake] at h
        cases cause with
        | queueExists taken =>
            -- the one failure that does not end the race
            rcases hagain : (Backend.lookupQueue id).runOn b₂ with ⟨cause | found?, b₃⟩
            · rw [runOn_ofAction, hagain] at h
              cases h
              exact .failed ((Backend.lookupQueue_store hagain).trans (hs'.trans hs))
            · rw [runOn_ofAction, hagain] at h
              cases h
              exact .overtaken hlook hmake hagain
        | queueNotFound | handleNotFound | backend =>
            cases h
            exact .failed (hs'.trans hs)
      · simp only [attempt_bind hmake] at h
        cases h
        exact .created hlook hmake

/-- **Untraced.** Creation is refused because the queue is there, and neither look-up shows it. -/
def Untraced (now : Int) (id : QueueId) (attributes : QueueAttributes) (b b' : Backend) : Prop :=
  ∃ taken b₁ b₂, (Backend.lookupQueue id).runOn b = (.ok none, b₁) ∧
    (Backend.createQueue now id attributes).runOn b₁ = (.error (.queueExists taken), b₂) ∧
    (Backend.lookupQueue id).runOn b₂ = (.ok none, b')

section Race

variable {now : Int} {id : QueueId} {attributes : QueueAttributes} {b b' : Backend}

/-- A refused creation changes nothing, and neither do the look-ups around it. -/
theorem overtaken_store {taken : String} {b₁ b₂ : Backend} {r : Except StoreError (Option Queue)}
    (look : (Backend.lookupQueue id).runOn b = (.ok none, b₁))
    (make : (Backend.createQueue now id attributes).runOn b₁ = (.error (.queueExists taken), b₂))
    (again : (Backend.lookupQueue id).runOn b₂ = (r, b')) : b'.store = b.store :=
  calc b'.store
      _ = b₂.store := Backend.lookupQueue_store again
      _ = b₁.store := Backend.call_error_store make
      _ = b.store := Backend.lookupQueue_store look

/-- The store makes the queue that was asked for. -/
theorem createQueue_gains {queue : Queue}
    (make : (Backend.createQueue now id attributes).runOn b = (.ok queue, b')) :
    b.store.Gains id attributes b'.store := by
  cases Backend.call_answer make with
  | granted done => exact Store.gains_of_create done
  | missed _ answer => cases answer

/-- A queue that stands in the way is one that the store holds. -/
theorem Placement.lookup?_of_some {queue : Queue}
    (h : Placement now id attributes b (.ok (some queue)) b') :
    b'.store = b.store ∧ b'.store.lookup? id = some queue := by
  cases h with
  | found look =>
      have hs := Backend.lookupQueue_store look
      exact ⟨hs, hs ▸ Backend.lookupQueue_some look⟩
  | overtaken look make again =>
      have hs := Backend.lookupQueue_store again
      exact ⟨overtaken_store look make again, hs ▸ Backend.lookupQueue_some again⟩

/-- Where nothing stands in the way, the queue has been made, or it is untraced. -/
theorem Placement.gains_of_none (h : Placement now id attributes b (.ok none) b') :
    b.store.Gains id attributes b'.store ∨
      Untraced now id attributes b b' ∧ b'.store = b.store := by
  cases h with
  | created look make =>
      rw [← Backend.lookupQueue_store look]
      exact Or.inl (createQueue_gains make)
  | overtaken look make again =>
      exact Or.inr ⟨⟨_, _, _, look, make, again⟩, overtaken_store look make again⟩

end Race

/-! ## Answered requests -/

section Answered

variable {desk : Desk} {caller : Caller} {occasion : Occasion} {name? : Option String}
  {supplied : List (String × String)} {b b' : Backend}

/-- An answered request has been checked, has gone through the race, and agrees with whatever stood in
    its way. -/
theorem createQueue_ok {url : String}
    (h : (createQueue desk caller occasion name? supplied).runOn b = (.ok url, b')) :
    ∃ name attributes b₁ existing?,
      Checked desk caller name? supplied b name attributes b₁ ∧
      Placement (occasion.clock 0) ⟨caller.account, name⟩ attributes b₁ (.ok existing?) b' ∧
      url = desk.addresses.url ⟨caller.account, name⟩ ∧
      ∀ queue, existing? = some queue → queue.attributes.comparable = attributes.comparable := by
  unfold createQueue at h
  obtain ⟨name, _, hverdict, h⟩ := bind_ok h
  obtain ⟨hname, rfl⟩ := ofExcept_ok hverdict
  obtain ⟨attributes, b₁, hattributes, h⟩ := bind_ok h
  obtain ⟨existing?, b₂, hrace, h⟩ := bind_ok h
  have hplace := existingOrCreate_placement hrace
  cases existing? with
  | none =>
      cases h
      exact ⟨name, attributes, b₁, none, ⟨hname, hattributes⟩, hplace, rfl, nofun⟩
  | some queue =>
      by_cases heq : queue.attributes.comparable = attributes.comparable
      · simp only [if_pos heq] at h
        cases h
        refine ⟨name, attributes, b₁, some queue, ⟨hname, hattributes⟩, hplace, rfl, ?_⟩
        intro queue' hq
        exact Option.some.inj hq ▸ heq
      · simp only [if_neg heq] at h
        cases h

/-- A request that is untraced is answered all the same, and nothing has changed. -/
theorem createQueue_of_untraced {name : String} {attributes : QueueAttributes} {b₁ : Backend}
    (hc : Checked desk caller name? supplied b name attributes b₁)
    (hu : Untraced (occasion.clock 0) ⟨caller.account, name⟩ attributes b₁ b') :
    (createQueue desk caller occasion name? supplied).runOn b =
        (.ok (desk.addresses.url ⟨caller.account, name⟩), b') ∧
      b'.store = b.store := by
  obtain ⟨taken, b₂, b₃, look, make, again⟩ := hu
  have hrace : (existingOrCreate (occasion.clock 0) ⟨caller.account, name⟩ attributes).runOn b₁ =
      (.ok none, b') := by
    unfold existingOrCreate
    simp only [call_bind_of_ok look, attempt_bind make]
    rw [runOn_ofAction, again]; rfl
  constructor
  · unfold createQueue
    rw [hc.name, runOn_bind_of_ok (runOn_ofExcept _ b), runOn_bind_of_ok hc.attributes,
      runOn_bind_of_ok hrace]
    rfl
  · exact (overtaken_store look make again).trans hc.store

/-- A request is checked in one way only. -/
theorem Checked.unique {name name' : String} {attributes attributes' : QueueAttributes}
    {b₁ b₁' : Backend} (h : Checked desk caller name? supplied b name attributes b₁)
    (h' : Checked desk caller name? supplied b name' attributes' b₁') :
    name' = name ∧ attributes' = attributes := by
  have hname := h.name.symm.trans h'.name
  have hattributes := h.attributes.symm.trans h'.attributes
  cases hname; cases hattributes
  exact ⟨rfl, rfl⟩

end Answered

/-- **What an answer is worth.** An answered request leaves a store that holds a matching queue, exactly
    if wherever the race ends untraced a matching queue was there all along. -/
theorem createQueue_sound_iff (desk : Desk) (caller : Caller) (occasion : Occasion)
    (name? : Option String) (supplied : List (String × String)) (b : Backend) :
    (∀ url b', (createQueue desk caller occasion name? supplied).runOn b = (.ok url, b') →
        ∃ name attributes b₁, Checked desk caller name? supplied b name attributes b₁ ∧
          b'.store.Matches ⟨caller.account, name⟩ attributes) ↔
      ∀ name attributes b₁ b', Checked desk caller name? supplied b name attributes b₁ →
        Untraced (occasion.clock 0) ⟨caller.account, name⟩ attributes b₁ b' →
        b.store.Matches ⟨caller.account, name⟩ attributes := by
  constructor
  · -- an untraced run is itself an answered one, and it has left the store alone
    intro h name attributes b₁ b' hc hu
    obtain ⟨hrun, hs⟩ := createQueue_of_untraced hc hu
    obtain ⟨name', attributes', b₁', hc', hm⟩ := h _ b' hrun
    obtain ⟨rfl, rfl⟩ := hc.unique hc'
    exact hs ▸ hm
  · intro h url b' hrun
    obtain ⟨name, attributes, b₁, existing?, hc, hplace, -, hagree⟩ := createQueue_ok hrun
    refine ⟨name, attributes, b₁, hc, ?_⟩
    cases existing? with
    | some queue =>
        obtain ⟨-, hlook⟩ := hplace.lookup?_of_some
        exact ⟨queue, hlook, hagree queue rfl⟩
    | none =>
        rcases hplace.gains_of_none with hg | ⟨hu, hs⟩
        · exact hg.matches
        · -- nothing was made and nothing compared: only the assumption is left
          rw [hs, (reads_queueAttributes _ _ _ hc.attributes).1]
          exact h name attributes b₁ b' hc hu

/-- An empty store on which the next creation is refused, as if somebody else had made the queue. -/
def refusing (name : String) : Backend :=
  { store := .empty
    faults := FaultPlan.none.append .createQueue [some (.failure (.queueExists name))] }

/-- A creation refused on an empty store is answered, although there is no queue. -/
theorem createQueue_answers_without_queue :
    ¬ ∀ url b', (createQueue Sample.desk Sample.caller Sample.occasion (some "q") []).runOn
        (refusing "q") = (.ok url, b') →
      ∃ name attributes b₁,
        Checked Sample.desk Sample.caller (some "q") [] (refusing "q") name attributes b₁ ∧
          b'.store.Matches ⟨Sample.caller.account, name⟩ attributes := by
  intro h
  have hc : Checked Sample.desk Sample.caller (some "q") [] (refusing "q") "q" .standard
      (refusing "q") := ⟨rfl, rfl⟩
  have hu : Untraced (Sample.occasion.clock 0) (Sample.id "q") .standard (refusing "q") _ :=
    ⟨"q", _, _, rfl, rfl, rfl⟩
  obtain ⟨hrun, hs⟩ := createQueue_of_untraced hc hu
  obtain ⟨name, attributes, b₁, -, queue, hqueue, -⟩ := h _ _ hrun
  rw [hs] at hqueue
  cases hqueue

/-! ## Without faults -/

/-- The race on a store that answers every call. -/
theorem existingOrCreate_reliable (now : Int) (id : QueueId) (attributes : QueueAttributes)
    (s : Store) :
    (existingOrCreate now id attributes).runOn (.reliable s) =
      match s.lookup? id with
      | some queue => (.ok (some queue), .reliable s)
      | none =>
        (.ok none,
          .reliable (s.setHeld id { queue := Queue.new id attributes now, messages := [] })) := by
  unfold existingOrCreate
  rw [call_bind_of_ok (Backend.lookupQueue_reliable id s)]
  cases hlook : s.lookup? id with
  | some queue => rfl
  | none =>
      simp only [attempt_bind (Backend.createQueue_of_absent now attributes hlook)]
      rfl

/-- The answer to a checked request on a store that answers every call. -/
theorem createQueue_of_checked {desk : Desk} {caller : Caller} {name? : Option String}
    {supplied : List (String × String)} {s : Store} {name : String} {attributes : QueueAttributes}
    (hc : Checked desk caller name? supplied (.reliable s) name attributes (.reliable s))
    (occasion : Occasion) :
    (createQueue desk caller occasion name? supplied).runOn (.reliable s) =
      match s.lookup? ⟨caller.account, name⟩ with
      | some queue =>
        if queue.attributes.comparable = attributes.comparable then
          (.ok (desk.addresses.url ⟨caller.account, name⟩), .reliable s)
        else (.error (.queueConflict name), .reliable s)
      | none =>
        (.ok (desk.addresses.url ⟨caller.account, name⟩),
          .reliable (s.setHeld ⟨caller.account, name⟩
            { queue := Queue.new ⟨caller.account, name⟩ attributes (occasion.clock 0)
              messages := [] })) := by
  have hrace := existingOrCreate_reliable (occasion.clock 0) ⟨caller.account, name⟩ attributes s
  unfold createQueue
  rw [hc.name, runOn_bind_of_ok (runOn_ofExcept _ _), runOn_bind_of_ok hc.attributes]
  cases hlook : s.lookup? ⟨caller.account, name⟩ with
  | none =>
      rw [hlook] at hrace
      rw [runOn_bind_of_ok hrace]; rfl
  | some queue =>
      rw [hlook] at hrace
      rw [runOn_bind_of_ok hrace]
      by_cases heq : queue.attributes.comparable = attributes.comparable
      · simp only [if_pos heq]; rfl
      · simp only [if_neg heq]; rfl

/-! ## Asking again

What is answered on one store is answered on another that has more queues, since a check only ever asks
whether a queue is there. -/

/-- Without faults, what the operation answers on the first store it answers on the second. -/
def Carries (s s' : Store) {α : Type} (op : Operation α) : Prop :=
  ∀ ⦃a b'⦄, op.runOn (.reliable s) = (.ok a, b') → op.runOn (.reliable s') = (.ok a, .reliable s')

section Again

variable {α β : Type} {limits : Limits} {caller : Caller} {s s' : Store}

theorem Carries.ofExcept (r : Except ServiceError α) : Carries s s' (Operation.ofExcept r) := by
  intro a b' h
  obtain ⟨hr, -⟩ := ofExcept_ok h
  rw [runOn_ofExcept, hr]

theorem Carries.pure (a : α) : Carries s s' (Pure.pure a : Operation α) := Carries.ofExcept (.ok a)

theorem Carries.bind {op : Operation α} {f : α → Operation β} (hop : Carries s s' op)
    (hread : Reads op) (hf : ∀ a, Carries s s' (f a)) : Carries s s' (op >>= f) := by
  intro c b' h
  obtain ⟨a, b₁, h₁, h₂⟩ := bind_ok h
  rw [runOn_bind_of_ok (hop h₁)]
  rw [hread.reliable h₁] at h₂
  exact hf a h₂

theorem carries_redrivePolicy (hk : s.Keeps s') (document : String) :
    Carries s s' (redrivePolicy limits caller document) := by
  refine (Carries.ofExcept _).bind (Reads.ofExcept _) fun policy => ?_
  intro policy' b' h
  rw [call_bind_of_ok (Backend.lookupQueue_reliable policy.target s)] at h
  rw [call_bind_of_ok (Backend.lookupQueue_reliable policy.target s')]
  cases hlook : s.lookup? policy.target with
  | none => rw [hlook] at h; cases h
  | some queue =>
      -- the policy does not depend on the record that is found
      obtain ⟨queue', hlook'⟩ :=
        Option.isSome_iff_exists.mp (hk policy.target (by rw [hlook]; rfl))
      rw [hlook] at h
      rw [hlook']
      cases h; rfl

theorem carries_setAttribute (hk : s.Keeps s') (attributes : QueueAttributes)
    (name value : String) : Carries s s' (setAttribute limits caller attributes name value) := by
  refine (Carries.ofExcept _).bind (Reads.ofExcept _) fun a => ?_
  split
  · exact (Carries.ofExcept _).bind (Reads.ofExcept _) fun _ => Carries.pure _
  · split
    · exact (Carries.ofExcept _).bind (Reads.ofExcept _) fun _ => Carries.pure _
    · split
      · exact (carries_redrivePolicy hk value).bind (reads_redrivePolicy ..) fun _ => Carries.pure _
      · exact Carries.pure _

theorem carries_setAttributes (hk : s.Keeps s') (attributes : QueueAttributes)
    (supplied : List (String × String)) :
    Carries s s' (setAttributes limits caller attributes supplied) := by
  induction supplied generalizing attributes with
  | nil => exact Carries.pure _
  | cons head rest ih =>
      exact (carries_setAttribute hk ..).bind (reads_setAttribute ..) fun attributes => ih attributes

end Again

/-- Asked on a store with at least the queues of the one it was checked on, a request that finds a
    matching queue is answered, and nothing changes. -/
theorem createQueue_of_matches {desk : Desk} {caller : Caller} {name? : Option String}
    {supplied : List (String × String)} {s s' : Store} {name : String} {attributes : QueueAttributes}
    {b₁ : Backend} (hc : Checked desk caller name? supplied (.reliable s) name attributes b₁)
    (hk : s.Keeps s') (hm : s'.Matches ⟨caller.account, name⟩ attributes) (occasion : Occasion) :
    (createQueue desk caller occasion name? supplied).runOn (.reliable s') =
      (.ok (desk.addresses.url ⟨caller.account, name⟩), .reliable s') := by
  have hc' : Checked desk caller name? supplied (.reliable s') name attributes (.reliable s') :=
    ⟨hc.name, carries_setAttributes hk _ _ hc.attributes⟩
  obtain ⟨queue, hlook, heq⟩ := hm
  rw [createQueue_of_checked hc' occasion, hlook]
  simp only [if_pos heq]

/-- **Creation without faults.** A checked request is answered exactly if there is no such queue or a
    matching one, and fails for the conflict otherwise. Where there was no queue the store gains the one
    asked for; where there was one, matching or not, the store stays as it is. A request that was
    answered is answered again in the same way, at whatever time, and changes nothing. -/
theorem createQueue_reliable {desk : Desk} {caller : Caller} {occasion : Occasion}
    {name? : Option String} {supplied : List (String × String)} {s : Store} {name : String}
    {attributes : QueueAttributes} {b₁ b' : Backend} {r : Except ServiceError String}
    (hc : Checked desk caller name? supplied (.reliable s) name attributes b₁)
    (hrun : (createQueue desk caller occasion name? supplied).runOn (.reliable s) = (r, b')) :
    ((∃ url, r = .ok url) ↔ s.lookup? ⟨caller.account, name⟩ = none ∨
        s.Matches ⟨caller.account, name⟩ attributes) ∧
      ((¬∃ url, r = .ok url) → ∃ e, r = .error e ∧ e.code = .queueAlreadyExists) ∧
      (s.lookup? ⟨caller.account, name⟩ = none →
        s.Gains ⟨caller.account, name⟩ attributes b'.store) ∧
      (s.lookup? ⟨caller.account, name⟩ ≠ none → b'.store = s) ∧
      ∀ url, r = .ok url → ∀ later : Occasion,
        (createQueue desk caller later name? supplied).runOn b' = (.ok url, b') := by
  obtain rfl := (reads_queueAttributes ..).reliable hc.attributes
  rw [createQueue_of_checked hc occasion] at hrun
  cases hlook : s.lookup? ⟨caller.account, name⟩ with
  | none =>
      rw [hlook] at hrun
      cases hrun
      have hg : s.Gains ⟨caller.account, name⟩ attributes _ :=
        Store.gains_setHeld (Option.map_eq_none_iff.mp hlook) attributes (occasion.clock 0)
      refine ⟨?_, ?_, ?_, ?_, ?_⟩
      · exact ⟨fun _ => Or.inl rfl, fun _ => ⟨_, rfl⟩⟩
      · intro hfail
        exact absurd ⟨_, rfl⟩ hfail
      · intro _
        exact hg
      · intro hsome
        exact absurd rfl hsome
      · -- the queue just made is the one that the second request finds
        intro url hurl later
        cases hurl
        exact createQueue_of_matches hc hg.keeps hg.matches later
  | some queue =>
      rw [hlook] at hrun
      by_cases heq : queue.attributes.comparable = attributes.comparable
      · have hm : s.Matches ⟨caller.account, name⟩ attributes := ⟨queue, hlook, heq⟩
        simp only [if_pos heq] at hrun
        cases hrun
        refine ⟨?_, ?_, nofun, fun _ => rfl, ?_⟩
        · exact ⟨fun _ => Or.inr hm, fun _ => ⟨_, rfl⟩⟩
        · intro hfail
          exact absurd ⟨_, rfl⟩ hfail
        · intro url hurl later
          cases hurl
          exact createQueue_of_matches hc (fun _ h => h) hm later
      · simp only [if_neg heq] at hrun
        cases hrun
        refine ⟨⟨nofun, ?_⟩, ?_, nofun, fun _ => rfl, nofun⟩
        · -- the only queue of that name is the one that does not match
          rintro (hnone | ⟨queue', hlook', heq'⟩)
          · cases hnone
          · rw [hlook] at hlook'
            cases hlook'
            exact absurd heq' heq
        · intro _
          exact ⟨_, rfl, rfl⟩

/-- A queue asked for on an empty store, and asked for again. -/
theorem createQueue_reliable_visibilityTimeout :
    ∃ attributes b', Checked Sample.desk Sample.caller (some "q") [("VisibilityTimeout", "40")]
        (.reliable .empty) "q" attributes (.reliable .empty) ∧
      Store.empty.Gains (Sample.id "q") attributes b'.store ∧
      (createQueue Sample.desk Sample.caller Sample.occasion (some "q")
        [("VisibilityTimeout", "40")]).runOn b' =
          (.ok (Sample.desk.addresses.url (Sample.id "q")), b') := by
  have hc : Checked Sample.desk Sample.caller (some "q") [("VisibilityTimeout", "40")]
      (.reliable .empty) "q" (QueueAttributes.standard.insert .visibilityTimeout "40")
      (.reliable .empty) := ⟨rfl, rfl⟩
  have hrun := createQueue_of_checked hc Sample.occasion
  obtain ⟨-, -, hgains, -, hagain⟩ := createQueue_reliable hc hrun
  exact ⟨_, _, hc, hgains rfl, hagain _ rfl Sample.occasion⟩

end Service

end QueueService
