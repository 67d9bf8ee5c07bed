import QueueService.Proofs.Creation
import QueueService.Service.Request

/-!
# Failed requests

A request that fails leaves the store as it was, wherever among its calls the faults fall. The reason is
the same for each operation: no step that can fail stands behind a step that changes the store
(`Operation.FailsClean.bind`). The deletion of a queue is the one operation that has two changing steps,
and `HalfDeleted` is the one way in which it stops between them.

* `serve_error_store` — the statement for all requests.
-/

namespace QueueService

open Operation

namespace Service

variable (desk : Desk) (caller : Caller) (occasion : Occasion)

/-! ## Queues -/

theorem reads_ownedQueue (locator : String) : Reads (ownedQueue desk caller locator) := by
  unfold ownedQueue
  split
  · exact Reads.throw _
  · split
    · exact Reads.throw _
    · refine (Reads.lookupQueue _).bind fun found => ?_
      cases found with
      | some queue => exact Reads.pure queue
      | none => exact Reads.throw _

/-- The race changes the store only where it makes the queue, and then nothing stands in the way. -/
theorem Placement.store_or_none {now : Int} {id : QueueId} {attributes : QueueAttributes}
    {b b' : Backend} {r : Except ServiceError (Option Queue)}
    (h : Placement now id attributes b r b') : b'.store = b.store ∨ r = .ok none := by
  cases h with
  | found look => exact Or.inl (Backend.lookupQueue_store look)
  | created => exact Or.inr rfl
  | overtaken look make again => exact Or.inl (overtaken_store look make again)
  | failed store => exact Or.inl store

theorem failsClean_createQueue (name? : Option String) (supplied : List (String × String)) :
    FailsClean (createQueue desk caller occasion name? supplied) := by
  refine (Reads.ofExcept _).bind_failsClean fun name => ?_
  refine (reads_queueAttributes ..).bind_failsClean fun attributes => ?_
  refine FailsClean.bind ?_ fun existing? => ?_
  · -- behind a made queue there is only the answer left
    intro b b' r hrace
    rcases (existingOrCreate_placement hrace).store_or_none with hs | hr
    · exact Or.inl hs
    · exact Or.inr ⟨none, hr, Answers.pure _⟩
  · cases existing? with
    | none => exact (Reads.pure _).failsClean
    | some existing =>
        show FailsClean (if _ then _ else _)
        split
        · exact (Reads.pure _).failsClean
        · exact (Reads.throw _).failsClean

theorem failsClean_queueUrl (name? : Option String) :
    FailsClean (queueUrl desk caller name?) := by
  refine Reads.failsClean ((Reads.ofExcept _).bind fun name => ?_)
  refine (Reads.lookupQueue _).bind fun found => ?_
  cases found with
  | some queue => exact Reads.pure _
  | none => exact Reads.throw _

theorem failsClean_listQueues (start? : Option String) :
    FailsClean (listQueues desk caller start?) :=
  (FailsClean.call ..).bind_answers fun _ => Answers.pure _

theorem failsClean_describeQueue (locator : String) (names : List String) :
    FailsClean (describeQueue desk caller locator names) :=
  Reads.failsClean <| (Reads.ofExcept _).bind fun _ =>
    (reads_ownedQueue desk caller locator).bind fun _ => Reads.pure _

theorem failsClean_purgeQueue (locator : String) : FailsClean (purgeQueue desk caller locator) :=
  (reads_ownedQueue desk caller locator).bind_failsClean fun _ => FailsClean.call ..

/-! ## Messages -/

theorem failsClean_sendTo (limits : Limits) (queue : Queue) (m : OutboundMessage) :
    FailsClean (sendTo limits caller occasion queue m) := by
  refine (Reads.ofExcept _).bind_failsClean fun message => ?_
  exact (FailsClean.call ..).bind_answers fun _ => Answers.pure _

theorem failsClean_sendMessage (locator : String) (m : OutboundMessage) :
    FailsClean (sendMessage desk caller occasion locator m) :=
  (reads_ownedQueue desk caller locator).bind_failsClean fun _ => failsClean_sendTo ..

/-- What fails in a batch is its shape or its queue; a failed entry is part of the answer. -/
theorem failsClean_sendBatch (locator : String) (entries : List BatchEntry) :
    FailsClean (sendBatch desk caller occasion locator entries) := by
  refine (Reads.ofExcept _).bind_failsClean fun _ => ?_
  exact (reads_ownedQueue desk caller locator).bind_failsClean fun _ => (Answers.lift _).failsClean

theorem failsClean_receiveMessages (locator : String) (asked : Option Int) :
    FailsClean (receiveMessages desk caller occasion locator asked) := by
  refine (Reads.ofExcept _).bind_failsClean fun max => ?_
  refine (reads_ownedQueue desk caller locator).bind_failsClean fun queue => ?_
  exact (FailsClean.call ..).bind_answers fun _ => Answers.pure _

theorem failsClean_deleteMessage (locator handle : String) :
    FailsClean (deleteMessage desk caller locator handle) :=
  (reads_ownedQueue desk caller locator).bind_failsClean fun _ => FailsClean.call ..

/-! ## Deleting a queue -/

/-- **Half a deletion.** The queue was found and its messages were deleted, but then the queue itself
    could not be. -/
def HalfDeleted (locator : String) (b : Backend) (queue : Queue) (b' : Backend) : Prop :=
  ∃ b₁ b₂ cause, (ownedQueue desk caller locator).runOn b = (.ok queue, b₁) ∧
    (Backend.purge queue.id).runOn b₁ = (.ok (), b₂) ∧
    (Backend.deleteQueue queue.id).runOn b₂ = (.error cause, b')

variable {desk caller}

/-- Half a deletion empties the queue and does nothing else. -/
theorem HalfDeleted.empties {locator : String} {b b' : Backend} {queue : Queue}
    (h : HalfDeleted desk caller locator b queue b') : b.store.Empties queue.id b'.store := by
  obtain ⟨b₁, b₂, cause, howned, hpurge, hdelete⟩ := h
  rw [Backend.call_error_store hdelete, ← (reads_ownedQueue _ _ _ howned).1]
  cases Backend.call_answer hpurge with
  | granted done => exact Store.empties_of_purge done
  | missed _ answer => cases answer

/-- A deletion that fails in any other way leaves the store alone. -/
theorem deleteQueue_error {locator : String} {b b' : Backend} {e : ServiceError}
    (h : (deleteQueue desk caller locator).runOn b = (.error e, b')) :
    (∃ queue, HalfDeleted desk caller locator b queue b') ∨ b'.store = b.store := by
  rcases bind_error h with howned | ⟨queue, b₁, howned, h⟩
  · exact Or.inr (reads_ownedQueue _ _ _ howned).1
  have hs : b₁.store = b.store := (reads_ownedQueue _ _ _ howned).1
  rcases bind_error h with hpurge | ⟨_, b₂, hpurge, hdelete⟩
  · exact Or.inr ((FailsClean.call _ _ _ hpurge).trans hs)
  · -- the purge is done: this is the gap between the two steps
    obtain ⟨cause, -, hdelete⟩ := ofAction_error hdelete
    exact Or.inl ⟨queue, b₁, b₂, cause, howned, ofAction_ok hpurge, hdelete⟩

end Service

/-! ## All requests -/

namespace Request

open Service

variable {desk : Desk} {caller : Caller} {occasion : Occasion} {request : Request} {b b' : Backend}
  {e : ServiceError}

/-- Every request but a deletion of a queue fails cleanly. -/
theorem failsClean_serve (h : ∀ locator, request ≠ .deleteQueue locator) :
    FailsClean (request.serve desk caller occasion) := by
  cases request with
  | createQueue name? attributes => exact (failsClean_createQueue ..).map _
  | queueUrl name? => exact (failsClean_queueUrl ..).map _
  | listQueues start? => exact (failsClean_listQueues ..).map _
  | describeQueue locator names => exact (failsClean_describeQueue ..).map _
  | purgeQueue locator => exact (failsClean_purgeQueue ..).map _
  | deleteQueue locator => exact absurd rfl (h locator)
  | sendMessage locator message => exact (failsClean_sendMessage ..).map _
  | sendBatch locator entries => exact (failsClean_sendBatch ..).map _
  | receiveMessages locator asked => exact (failsClean_receiveMessages ..).map _
  | deleteMessage locator handle => exact (failsClean_deleteMessage ..).map _

/-- **A failed request changes nothing, but for half a deletion.** Half a deletion empties its queue,
    keeps all records of queues, and leaves what is held of all other queues alone. -/
theorem serve_error_store (h : (request.serve desk caller occasion).runOn b = (.error e, b')) :
    (∀ locator queue, request = .deleteQueue locator →
        HalfDeleted desk caller locator b queue b' →
        b.store.Empties queue.id b'.store ∧ ∀ id, b'.store.lookup? id = b.store.lookup? id) ∧
      ((¬∃ locator queue, request = .deleteQueue locator ∧
          HalfDeleted desk caller locator b queue b') → b'.store = b.store) := by
  refine ⟨fun locator queue _ hhalf => ⟨hhalf.empties, hhalf.empties.lookup?⟩, fun hnot => ?_⟩
  by_cases hdelete : ∃ locator, request = .deleteQueue locator
  · obtain ⟨locator, rfl⟩ := hdelete
    rcases deleteQueue_error (map_error h) with ⟨queue, hhalf⟩ | hs
    · exact absurd ⟨locator, queue, rfl, hhalf⟩ hnot
    · exact hs
  · exact failsClean_serve (fun locator heq => hdelete ⟨locator, heq⟩) h

/-- A queue with one message whose deletion fails behind the purge. -/
def undeletable : Backend :=
  { store := Sample.store "q" [Sample.held "a"]
    faults := FaultPlan.none.append .deleteQueue [some (.failure (.backend "down"))] }

/-- The message is gone and the queue is still there. -/
theorem serve_error_store_undeletable :
    ∃ e b', ((Request.deleteQueue (Sample.locator "q")).serve Sample.desk Sample.caller
        Sample.occasion).runOn undeletable = (.error e, b') ∧
      undeletable.store.Empties (Sample.id "q") b'.store ∧ b'.store ≠ undeletable.store := by
  have hrun : ((Request.deleteQueue (Sample.locator "q")).serve Sample.desk Sample.caller
      Sample.occasion).runOn undeletable = (.error (.store (.backend "down")), _) := rfl
  obtain ⟨hhalf, -⟩ := serve_error_store hrun
  obtain ⟨hempties, -⟩ := hhalf (Sample.locator "q") (Queue.new (Sample.id "q") .standard 0) rfl
    ⟨_, _, .backend "down", rfl, rfl, rfl⟩
  refine ⟨_, _, hrun, hempties, ?_⟩
  intro heq
  have hheld := congrArg (Store.held? · (Sample.id "q")) heq
  cases hheld

end Request

end QueueService
