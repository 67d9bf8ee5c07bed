import QueueService.Proofs.Session

/-!
# Records of queues

What sessions do to the records of queues. A turn leaves all records alone, or makes one queue for a request
that passed its checks, or takes one away (`Turn.recorded`). So every record that a store has goes back to
the request for which it was made (`Session.exists_made`), with the attributes that the request came to.
-/

namespace QueueService

open Operation

/-! ## Keeping records -/

namespace Store

variable {s s' s'' : Store}

/-- The stores have the same records. -/
def SameRecords (s s' : Store) : Prop := ∀ id, s'.lookup? id = s.lookup? id

theorem SameRecords.of_eq (h : s' = s) : s.SameRecords s' := fun _ => h ▸ rfl

theorem SameRecords.trans (h : s.SameRecords s') (h' : s'.SameRecords s'') : s.SameRecords s'' :=
  fun id => (h' id).trans (h id)

/-- The record of a queue that was just made. -/
theorem Gains.lookup?_self {id : QueueId} {attributes : QueueAttributes}
    (h : s.Gains id attributes s') :
    ∃ queue, s'.lookup? id = some queue ∧ queue.attributes = attributes := by
  obtain ⟨q, hq, -, hattributes, -⟩ := h.present
  exact ⟨q.queue, by rw [lookup?, hq]; rfl, hattributes⟩

theorem Gains.lookup?_of_ne {id id' : QueueId} {attributes : QueueAttributes}
    (h : s.Gains id attributes s') (hne : id' ≠ id) : s'.lookup? id' = s.lookup? id' := by
  rw [lookup?, lookup?, h.frame id' hne]

theorem Gains.lookup?_absent {id : QueueId} {attributes : QueueAttributes}
    (h : s.Gains id attributes s') : s.lookup? id = none := by
  rw [lookup?, h.absent]
  rfl

end Store

namespace Operation

variable {α β : Type}

/-- **Keeping records.** Whatever it answers, the operation leaves the records of all queues alone. -/
def KeepsRecords (op : Operation α) : Prop :=
  ∀ ⦃b b' : Backend⦄ ⦃r : Except ServiceError α⦄, runOn op b = (r, b') →
    b.store.SameRecords b'.store

theorem Reads.keepsRecords {op : Operation α} (h : Reads op) : KeepsRecords op :=
  fun _ _ _ hop => .of_eq (h hop).1

theorem KeepsRecords.bind {op : Operation α} {f : α → Operation β} (hop : KeepsRecords op)
    (hf : ∀ a, KeepsRecords (f a)) : KeepsRecords (op >>= f) :=
  bind_trans (fun _ _ _ h h' => h.trans h') hop hf

theorem KeepsRecords.map {op : Operation α} (g : α → β) (hop : KeepsRecords op) :
    KeepsRecords (g <$> op) := by
  intro b b' r h
  rw [runOn_map] at h
  cases h
  exact hop rfl

/-- A call keeps records if the store does so whenever it grants it. -/
theorem KeepsRecords.call {c : Call} {missed : Option α}
    {act : Store → Except StoreError (α × Store)}
    (hact : ∀ ⦃s a s'⦄, act s = .ok (a, s') → s.SameRecords s') :
    KeepsRecords (ofAction (Backend.call c missed act)) := by
  intro b b' r h
  rcases hcall : (Backend.call c missed act).runOn b with ⟨r₁, b₁⟩
  rw [runOn_ofAction, hcall] at h
  cases h
  cases Backend.call_answer hcall with
  | granted done => exact hact done
  | failed | missed | refused => exact .of_eq rfl

end Operation

namespace Service

section Keep

variable (desk : Desk) (caller : Caller) (occasion : Occasion)

theorem keepsRecords_purge (id : QueueId) : KeepsRecords (ofAction (Backend.purge id)) :=
  .call fun _ _ _ h => (Store.empties_of_purge h).lookup?

theorem keepsRecords_purgeQueue (locator : String) : KeepsRecords (purgeQueue desk caller locator) :=
  (reads_ownedQueue ..).keepsRecords.bind fun queue => keepsRecords_purge queue.id

theorem keepsRecords_listQueues (start? : Option String) :
    KeepsRecords (listQueues desk caller start?) := by
  refine (KeepsRecords.call ?_).bind fun _ => (Reads.pure _).keepsRecords
  intro s queues s' h
  cases h
  exact .of_eq rfl

theorem keepsRecords_sendTo (limits : Limits) (queue : Queue) (m : OutboundMessage) :
    KeepsRecords (sendTo limits caller occasion queue m) :=
  fun _ _ _ h => sendTo_lookup? h

theorem keepsRecords_sendMessage (locator : String) (m : OutboundMessage) :
    KeepsRecords (sendMessage desk caller occasion locator m) :=
  (reads_ownedQueue ..).keepsRecords.bind fun _ => keepsRecords_sendTo ..

theorem sameRecords_sendEntries {limits : Limits} {queue : Queue} {entries : List BatchEntry} {k : Nat}
    {outcome : BatchOutcome} {b b' : Backend}
    (h : (sendEntries limits caller occasion queue k entries).run b = (outcome, b')) :
    b.store.SameRecords b'.store := by
  induction entries generalizing k b outcome with
  | nil => cases h; exact .of_eq rfl
  | cons entry rest ih =>
      obtain ⟨sent, b₁, others, hsend, hrest, -⟩ := sendEntries_split h
      exact (keepsRecords_sendTo _ _ _ _ _ hsend).trans (ih hrest)

theorem keepsRecords_sendBatch (locator : String) (entries : List BatchEntry) :
    KeepsRecords (sendBatch desk caller occasion locator entries) := by
  refine (Reads.ofExcept _).keepsRecords.bind fun _ => ?_
  refine (reads_ownedQueue ..).keepsRecords.bind fun queue => ?_
  intro b b' r h
  rw [runOn_lift] at h
  cases h
  exact sameRecords_sendEntries caller occasion rfl

theorem keepsRecords_receiveMessages (locator : String) (asked : Option Int) :
    KeepsRecords (receiveMessages desk caller occasion locator asked) := by
  refine (Reads.ofExcept _).keepsRecords.bind fun max => ?_
  refine (reads_ownedQueue ..).keepsRecords.bind fun queue => ?_
  refine (KeepsRecords.call ?_).bind fun _ => (Reads.pure _).keepsRecords
  intro s given s' h
  obtain ⟨q, kept, hq, -, rfl⟩ := Store.receive_ok h
  exact Store.lookup?_setHeld_messages hq kept

theorem keepsRecords_deleteMessage (locator handle : String) :
    KeepsRecords (deleteMessage desk caller locator handle) := by
  refine (reads_ownedQueue ..).keepsRecords.bind fun queue => KeepsRecords.call ?_
  intro s _ s' h
  obtain ⟨q, before, x, after, hq, -, -, -, rfl⟩ := Store.deleteMessage_ok h
  exact Store.lookup?_setHeld_messages hq (before ++ after)

theorem keepsRecords_queueUrl (name? : Option String) : KeepsRecords (queueUrl desk caller name?) := by
  refine Reads.keepsRecords <| (Reads.ofExcept _).bind fun name =>
    (Reads.lookupQueue _).bind fun found => ?_
  cases found with
  | some queue => exact Reads.pure _
  | none => exact Reads.throw _

theorem keepsRecords_describeQueue (locator : String) (names : List String) :
    KeepsRecords (describeQueue desk caller locator names) :=
  Reads.keepsRecords <| (Reads.ofExcept _).bind fun _ =>
    (reads_ownedQueue desk caller locator).bind fun _ => Reads.pure _

end Keep

/-! ## Making and taking away -/

section Change

variable {desk : Desk} {caller : Caller} {occasion : Occasion} {b b' : Backend}

/-- A request for a queue makes it with the attributes that the request came to, or changes nothing. -/
theorem createQueue_records {name? : Option String} {supplied : List (String × String)}
    {r : Except ServiceError String}
    (h : (createQueue desk caller occasion name? supplied).runOn b = (r, b')) :
    b.store.SameRecords b'.store ∨
      ∃ name attributes b₁, Checked desk caller name? supplied b name attributes b₁ ∧
        b.store.Gains ⟨caller.account, name⟩ attributes b'.store := by
  rcases r with e | url
  · exact Or.inl (.of_eq (failsClean_createQueue _ _ _ _ _ h))
  · obtain ⟨name, attributes, b₁, existing?, hc, hplace, -, -⟩ := createQueue_ok h
    rw [← hc.store]
    cases existing? with
    | some queue => exact Or.inl (.of_eq hplace.lookup?_of_some.1)
    | none =>
        rcases hplace.gains_of_none with hg | ⟨-, hsame⟩
        · exact Or.inr ⟨name, attributes, b₁, hc, hg⟩
        · exact Or.inl (.of_eq hsame)

/-- A deletion takes one record away, or leaves all alone. -/
theorem deleteQueue_records {locator : String} {r : Except ServiceError Unit}
    (h : (deleteQueue desk caller locator).runOn b = (r, b')) :
    b.store.SameRecords b'.store ∨
      ∃ id, ∀ id', b'.store.lookup? id' = if id' = id then none else b.store.lookup? id' := by
  rcases r with e | ⟨⟩
  · rcases deleteQueue_error h with ⟨queue, hhalf⟩ | hs
    · exact Or.inl hhalf.empties.lookup?
    · exact Or.inl (.of_eq hs)
  · obtain ⟨queue, b₁, howned, h⟩ := bind_ok h
    obtain ⟨_, b₂, hpurge, hdelete⟩ := bind_ok h
    have hsame : b.store.SameRecords b₂.store :=
      ((reads_ownedQueue _ _ _).keepsRecords howned).trans (keepsRecords_purge _ hpurge)
    cases Backend.call_answer (ofAction_ok hdelete) with
    | granted done =>
        obtain ⟨-, rfl⟩ := Store.delete_ok done
        refine Or.inr ⟨queue.id, fun id' => ?_⟩
        rw [← hsame id', Store.lookup?, Store.held?_erase]
        split <;> rfl
    | missed _ answer => cases answer

end Change

end Service

/-! ## Turns -/

namespace Turn

open Service

/-- **What a turn does to the records.** -/
inductive Recorded (turn : Turn) (b b' : Backend) : Prop
  /-- All records are as they were. -/
  | kept (same : b.store.SameRecords b'.store)
  /-- A queue was made for a request that passed its checks. -/
  | made {name? : Option String} {supplied : List (String × String)} {name : String}
      {attributes : QueueAttributes} {b₁ : Backend}
      (asked : turn.request = .createQueue name? supplied)
      (checked : Checked turn.desk turn.caller name? supplied b name attributes b₁)
      (gains : b.store.Gains ⟨turn.caller.account, name⟩ attributes b'.store)
  /-- A queue was taken away. -/
  | deleted {locator : String} {id : QueueId} (asked : turn.request = .deleteQueue locator)
      (lost : ∀ id', b'.store.lookup? id' = if id' = id then none else b.store.lookup? id')

theorem recorded {turn : Turn} {b b' : Backend}
    (h : (turn.request.serve turn.desk turn.caller turn.occasion).runOn b = (turn.outcome, b')) :
    turn.Recorded b b' := by
  obtain ⟨desk, caller, occasion, request, outcome⟩ := turn
  cases request with
  | createQueue name? supplied =>
      rcases hrun : (createQueue desk caller occasion name? supplied).runOn b with ⟨r, b₁⟩
      rw [Request.serve, runOn_map, hrun] at h
      cases h
      rcases createQueue_records hrun with hsame | ⟨name, attributes, b₁, hc, hg⟩
      · exact .kept hsame
      · exact .made rfl hc hg
  | deleteQueue locator =>
      rcases hrun : (deleteQueue desk caller locator).runOn b with ⟨r, b₁⟩
      rw [Request.serve, runOn_map, hrun] at h
      cases h
      rcases deleteQueue_records hrun with hsame | ⟨id, hlost⟩
      · exact .kept hsame
      · exact .deleted rfl hlost
  | queueUrl name? => exact .kept ((keepsRecords_queueUrl ..).map _ h)
  | listQueues start? => exact .kept ((keepsRecords_listQueues ..).map _ h)
  | describeQueue locator names => exact .kept ((keepsRecords_describeQueue ..).map _ h)
  | purgeQueue locator => exact .kept ((keepsRecords_purgeQueue ..).map _ h)
  | sendMessage locator message => exact .kept ((keepsRecords_sendMessage ..).map _ h)
  | sendBatch locator entries => exact .kept ((keepsRecords_sendBatch ..).map _ h)
  | receiveMessages locator asked => exact .kept ((keepsRecords_receiveMessages ..).map _ h)
  | deleteMessage locator handle => exact .kept ((keepsRecords_deleteMessage ..).map _ h)

/-- **Made by a turn.** The turn has made the queue, which was not there before, for a request that came to
    the attributes that the queue has. -/
def Made (turn : Turn) (id : QueueId) (attributes : QueueAttributes) : Prop :=
  ∃ name? supplied name b b₁, turn.request = .createQueue name? supplied ∧
    Checked turn.desk turn.caller name? supplied b name attributes b₁ ∧
    id = ⟨turn.caller.account, name⟩ ∧ b.store.lookup? id = none

end Turn

/-- **Every record was made,** with the attributes that it has. -/
theorem Session.exists_made {b₀ b : Backend} {turns : List Turn} (session : Session b₀ turns b)
    (hempty : b₀.store = .empty) {id : QueueId} {queue : Queue}
    (h : b.store.lookup? id = some queue) : ∃ turn ∈ turns, turn.Made id queue.attributes := by
  induction session generalizing id queue with
  | start =>
      rw [hempty] at h
      cases h
  | @next turns b b' turn past served ih =>
      -- a record that was there before was made before
      have hearlier : b.store.lookup? id = some queue →
          ∃ made ∈ turns ++ [turn], made.Made id queue.attributes := by
        intro hbefore
        obtain ⟨made, hmem, hmade⟩ := ih hbefore
        exact ⟨made, List.mem_append_left _ hmem, hmade⟩
      cases Turn.recorded served with
      | kept same => exact hearlier (same id ▸ h)
      | @made name? supplied name attributes b₁ asked checked gains =>
          by_cases hid : id = ⟨turn.caller.account, name⟩
          · subst hid
            obtain ⟨queue', hqueue', rfl⟩ := gains.lookup?_self
            cases h.symm.trans hqueue'
            exact ⟨turn, List.mem_append_right _ (List.mem_singleton_self turn),
              ⟨name?, supplied, name, b, b₁, asked, checked, rfl, gains.lookup?_absent⟩⟩
          · exact hearlier (gains.lookup?_of_ne hid ▸ h)
      | deleted asked lost =>
          rw [lost] at h
          split at h
          · cases h
          · exact hearlier h

end QueueService
