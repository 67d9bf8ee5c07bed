import QueueService.Proofs.RedrivePolicy
import QueueService.Proofs.Session
import QueueService.Proofs.Store.Locality

/-!
# Accounts apart

What the callers of one account are told, and what becomes of its queues, does not depend on what the
callers of other accounts do. The reason has two halves, and `Operation.Confined` says both of an
operation: on two stores that differ only in the queues of other accounts it answers the same and leaves
the account's queues the same, and it leaves the queues of other accounts alone.

* `Request.confined_serve` — each request is confined to the account of its caller.
* `serveVisits_isolated` — in a run without faults, leaving out all requests of other accounts changes
  nothing for an account.
-/

namespace QueueService

open Store

variable {ε α β : Type}

/-! ## Stores that an account cannot tell apart -/

/-- **Indistinct.** The stores hold the same of the queues of an account, and both hold their queues under
    their own identities. -/
structure Store.Indistinct (account : String) (s s' : Store) : Prop where
  same : SameOn (·.account = account) s s'
  keyed : s.Keyed
  keyed' : s'.Keyed

theorem Store.Keyed.indistinct {s : Store} (h : s.Keyed) (account : String) :
    s.Indistinct account s :=
  ⟨SameOn.refl _ s, h, h⟩

/-- Changes outside of an account leave it indistinct. -/
theorem Store.Indistinct.change {account account' : String} {s s' t : Store}
    (h : s.Indistinct account s') (hne : account ≠ account')
    (hsame : SameOn (·.account ≠ account') s t) (hkeyed : t.Keyed) : t.Indistinct account s' := by
  refine ⟨?_, hkeyed, h.keyed'⟩
  intro id hid
  have hother : id.account ≠ account' := by
    intro heq
    exact hne (hid.symm.trans heq)
  rw [h.same hid, hsame hother]

/-- **Two runs that an account cannot tell apart.** They began on two stores and ended with one answer; on
    the way the first store has kept what it holds of the queues of other accounts. -/
structure Paired (account : String) (run : Backend → Except ε α × Backend) (s s' : Store)
    (r : Except ε α) (t t' : Store) : Prop where
  first : run (.reliable s) = (r, .reliable t)
  second : run (.reliable s') = (r, .reliable t')
  indistinct : t.Indistinct account t'
  outside : SameOn (·.account ≠ account) s t

namespace Backend

/-- **A confined call.** -/
def Action.Confined (account : String) (act : Action α) : Prop :=
  ∀ ⦃s s'⦄, s.Indistinct account s' → ∃ r t t', Paired account act.runOn s s' r t t'

/-- A call is confined if it has a store carry out a command that is aimed at nothing outside of the
    account, and stores with the same queues of the account are in step on it. -/
theorem Action.Confined.call {account : String} {c : Call} {missed : Option α}
    {act : Store → Except StoreError (α × Store)} (command : Command)
    (target : ∀ id, command.target = some id → id.account = account)
    (does : ∀ ⦃s a t⦄, act s = .ok (a, t) → ∃ note, s.execute command = .ok (note, t))
    (inStep : ∀ ⦃s s'⦄, SameOn (·.account = account) s s' →
      InStep (·.account = account) (act s) (act s')) :
    Action.Confined account (Backend.call c missed act) := by
  intro s s' h
  have hfirst := call_of_nil (c := c) missed act (b := .reliable s) rfl
  have hsecond := call_of_nil (c := c) missed act (b := .reliable s') rfl
  have hstep := inStep h.same
  rw [reliable_store] at hfirst hsecond
  generalize hact : act s = outcome at hstep hfirst
  generalize hact' : act s' = outcome' at hstep hsecond
  cases hstep with
  | refused e => exact ⟨_, _, _, hfirst, hsecond, h, SameOn.refl _ s⟩
  | @granted a t t' same =>
      obtain ⟨note, hexecute⟩ := does hact
      obtain ⟨note', hexecute'⟩ := does hact'
      have hgranted := execute_granted hexecute
      have hgranted' := execute_granted hexecute'
      refine ⟨_, _, _, hfirst, hsecond, ⟨same, ?_, ?_⟩, ?_⟩
      · exact hgranted.keyed h.keyed
      · exact hgranted'.keyed h.keyed'
      · -- the one queue that can have changed is of the account
        intro id hid
        apply hgranted.held?_of_target
        intro htarget
        exact hid (target id htarget)

section Calls

variable {account : String} {id : QueueId}

theorem confined_lookupQueue (hid : id.account = account) :
    Action.Confined account (lookupQueue id) := by
  apply Action.Confined.call (.lookup id)
  · intro _ htarget
    cases htarget
  · intro s a t hact
    cases hact
    exact ⟨_, rfl⟩
  · intro s s' h
    rw [h.lookup? hid]
    exact .granted _ h

theorem confined_createQueue (hid : id.account = account) (now : Int) (attributes : QueueAttributes) :
    Action.Confined account (createQueue now id attributes) := by
  apply Action.Confined.call (.create now id attributes)
  · intro _ htarget
    cases htarget
    exact hid
  · intro s a t hact
    exact ⟨_, by rw [execute, hact]; rfl⟩
  · exact fun s s' h => h.create hid now attributes

theorem confined_listQueues (start : String) : Action.Confined account (listQueues account start) := by
  apply Action.Confined.call (.list account start)
  · intro _ htarget
    cases htarget
  · intro s a t hact
    cases hact
    exact ⟨_, rfl⟩
  · intro s s' h
    rw [h.list (fun _ haccount => haccount) start]
    exact .granted _ h

theorem confined_deleteQueue (hid : id.account = account) :
    Action.Confined account (deleteQueue id) := by
  apply Action.Confined.call (.delete id)
  · intro _ htarget
    cases htarget
    exact hid
  · intro s a t hact
    exact ⟨_, by rw [execute, hact]; rfl⟩
  · exact fun s s' h => h.delete hid

theorem confined_sendMessage (hid : id.account = account) (now : Int) (m : Message) :
    Action.Confined account (sendMessage now id m) := by
  apply Action.Confined.call (.send now id m)
  · intro _ htarget
    cases htarget
    exact hid
  · intro s a t hact
    exact ⟨_, by rw [execute, hact]; rfl⟩
  · exact fun s s' h => h.withQueue hid _

theorem confined_receiveMessages (hid : id.account = account) (now : Int) (handles : Nat → String)
    (max : Nat) : Action.Confined account (receiveMessages now handles id max) := by
  apply Action.Confined.call (.receive now handles id max)
  · intro _ htarget
    cases htarget
    exact hid
  · intro s a t hact
    exact ⟨_, by rw [execute, hact]; rfl⟩
  · exact fun s s' h => h.withQueue hid _

theorem confined_deleteMessage (hid : id.account = account) (handle : String) :
    Action.Confined account (deleteMessage id handle) := by
  apply Action.Confined.call (.deleteMessage id handle)
  · intro _ htarget
    cases htarget
    exact hid
  · intro s a t hact
    exact ⟨_, by rw [execute, hact]; rfl⟩
  · exact fun s s' h => h.withQueue hid _

theorem confined_purge (hid : id.account = account) : Action.Confined account (purge id) := by
  apply Action.Confined.call (.purge id)
  · intro _ htarget
    cases htarget
    exact hid
  · intro s a t hact
    exact ⟨_, by rw [execute, hact]; rfl⟩
  · exact fun s s' h => h.withQueue hid _

end Calls

end Backend

/-! ## Confined operations -/

namespace Operation

variable {account : String}

/-- **Confined to an account.** The operation depends on the queues of the account alone, and leaves those
    of other accounts alone. -/
def Confined (account : String) (op : Operation α) : Prop :=
  ∀ ⦃s s'⦄, s.Indistinct account s' → ∃ r t t', Paired account (runOn op) s s' r t t'

theorem Confined.ofExcept (r : Except ServiceError α) : Confined account (ofExcept r) :=
  fun s _ h => ⟨r, _, _, rfl, rfl, h, SameOn.refl _ s⟩

theorem Confined.pure (a : α) : Confined account (Pure.pure a : Operation α) := .ofExcept (.ok a)

theorem Confined.throw (e : ServiceError) : Confined account (MonadExcept.throw e : Operation α) :=
  .ofExcept (.error e)

theorem Confined.ofAction {act : Backend.Action α} (hact : act.Confined account) :
    Confined account (ofAction act) := by
  intro s s' h
  obtain ⟨r, t, t', hpaired⟩ := hact h
  refine ⟨r.mapError .store, t, t', ?_, ?_, hpaired.indistinct, hpaired.outside⟩
  · rw [runOn_ofAction, hpaired.first]
  · rw [runOn_ofAction, hpaired.second]

theorem Confined.attempt {act : Backend.Action α} (hact : act.Confined account) :
    Confined account (attempt act) := by
  intro s s' h
  obtain ⟨r, t, t', hpaired⟩ := hact h
  refine ⟨.ok r, t, t', ?_, ?_, hpaired.indistinct, hpaired.outside⟩
  · rw [runOn_attempt, hpaired.first]
  · rw [runOn_attempt, hpaired.second]

theorem Confined.bind {op : Operation α} {f : α → Operation β} (hop : Confined account op)
    (hf : ∀ a, Confined account (f a)) : Confined account (op >>= f) := by
  intro s s' h
  obtain ⟨r, t, t', hpaired⟩ := hop h
  cases r with
  | error e =>
      refine ⟨.error e, t, t', ?_, ?_, hpaired.indistinct, hpaired.outside⟩
      · exact runOn_bind_of_error hpaired.first
      · exact runOn_bind_of_error hpaired.second
  | ok a =>
      obtain ⟨r₂, t₂, t₂', hrest⟩ := hf a hpaired.indistinct
      refine ⟨r₂, t₂, t₂', ?_, ?_, hrest.indistinct, hpaired.outside.trans hrest.outside⟩
      · rw [runOn_bind_of_ok hpaired.first, hrest.first]
      · rw [runOn_bind_of_ok hpaired.second, hrest.second]

/-- Behind a check only what passes it matters. -/
theorem Confined.ofExcept_bind {r : Except ServiceError α} {f : α → Operation β}
    (hf : ∀ a, r = .ok a → Confined account (f a)) : Confined account (Operation.ofExcept r >>= f) := by
  cases r with
  | error e => exact Confined.throw e
  | ok a => exact hf a rfl

theorem Confined.map (g : α → β) {op : Operation α} (hop : Confined account op) :
    Confined account (g <$> op) := by
  intro s s' h
  obtain ⟨r, t, t', hpaired⟩ := hop h
  refine ⟨r.map g, t, t', ?_, ?_, hpaired.indistinct, hpaired.outside⟩
  · rw [runOn_map, hpaired.first]
  · rw [runOn_map, hpaired.second]

end Operation

/-! ## The operations of the service -/

namespace Service

open Operation Backend

variable (desk : Desk) (limits : Limits) (caller : Caller) (occasion : Occasion)

theorem confined_redrivePolicy (document : String) :
    Confined caller.account (redrivePolicy limits caller document) := by
  apply Confined.ofExcept_bind
  intro policy hpolicy
  -- a target of another account would not have passed
  have htarget : policy.target.account = caller.account :=
    (RedrivePolicy.valid_of_parse (exceptMapError_ok hpolicy)).owner
  apply (Confined.ofAction (confined_lookupQueue htarget)).bind
  intro found
  cases found with
  | some _ => exact .pure _
  | none => exact .throw _

theorem confined_setAttribute (attributes : QueueAttributes) (name value : String) :
    Confined caller.account (setAttribute limits caller attributes name value) := by
  apply (Confined.ofExcept _).bind
  intro a
  split
  · exact (Confined.ofExcept _).bind fun _ => .pure _
  · split
    · exact (Confined.ofExcept _).bind fun _ => .pure _
    · split
      · exact (confined_redrivePolicy ..).bind fun _ => .pure _
      · exact .pure _

theorem confined_setAttributes (attributes : QueueAttributes) (supplied : List (String × String)) :
    Confined caller.account (setAttributes limits caller attributes supplied) := by
  induction supplied generalizing attributes with
  | nil => exact .pure _
  | cons head rest ih => exact (confined_setAttribute ..).bind fun attributes => ih attributes

theorem confined_existingOrCreate {id : QueueId} (hid : id.account = caller.account) (now : Int)
    (attributes : QueueAttributes) :
    Confined caller.account (existingOrCreate now id attributes) := by
  have hlookup := Confined.ofAction (confined_lookupQueue hid)
  apply hlookup.bind
  intro found
  cases found with
  | some queue => exact .pure _
  | none =>
      apply (Confined.attempt (confined_createQueue hid now attributes)).bind
      intro made
      match made with
      | .ok _ => exact .pure _
      | .error (.queueExists _) => exact hlookup
      | .error (.queueNotFound _) => exact .throw _
      | .error (.handleNotFound _) => exact .throw _
      | .error (.backend _) => exact .throw _

theorem confined_createQueue (name? : Option String) (supplied : List (String × String)) :
    Confined caller.account (createQueue desk caller occasion name? supplied) := by
  apply (Confined.ofExcept _).bind
  intro name
  apply (confined_setAttributes ..).bind
  intro attributes
  apply (confined_existingOrCreate caller rfl _ attributes).bind
  intro existing?
  cases existing? with
  | none => exact .pure _
  | some existing =>
      show Confined caller.account (if _ then _ else _)
      split
      · exact .pure _
      · exact .throw _

theorem confined_queueUrl (name? : Option String) :
    Confined caller.account (queueUrl desk caller name?) := by
  apply (Confined.ofExcept _).bind
  intro name
  have hlookup : Backend.Action.Confined caller.account
      (Backend.lookupQueue ⟨caller.account, name⟩) := Backend.confined_lookupQueue rfl
  apply (Confined.ofAction hlookup).bind
  intro found
  cases found with
  | some queue => exact .pure _
  | none => exact .throw _

theorem confined_listQueues (start? : Option String) :
    Confined caller.account (listQueues desk caller start?) :=
  (Confined.ofAction (Backend.confined_listQueues _)).bind fun _ => .pure _

/-- What is done with the queue that a locator names is confined if it is so for every queue of the
    account: a locator of another account's queue is turned down before anything is looked up. -/
theorem confined_ownedQueue_bind {locator : String} {f : Queue → Operation β}
    (hf : ∀ queue, queue.id.account = caller.account → Confined caller.account (f queue)) :
    Confined caller.account (ownedQueue desk caller locator >>= f) := by
  unfold ownedQueue
  split
  · exact .throw _
  · next id hid =>
    split
    · exact .throw _
    · next haccount =>
      have hown : id.account = caller.account := by simpa using haccount
      -- up to here the store has not been asked; what it holds for the account is the same in both
      intro s s' h
      have hlookup : s'.lookup? id = s.lookup? id := h.same.lookup? hown
      have hfirst := lookupQueue_reliable id s
      have hsecond := lookupQueue_reliable id s'
      rw [hlookup] at hsecond
      rw [bind_assoc]
      cases hfound : s.lookup? id with
      | none =>
          rw [hfound] at hfirst hsecond
          refine ⟨.error .queueMissing, s, s', ?_, ?_, h, SameOn.refl _ s⟩
          · exact call_bind_of_ok hfirst
          · exact call_bind_of_ok hsecond
      | some queue =>
          rw [hfound] at hfirst hsecond
          have hqueue : queue.id.account = caller.account := by
            rw [h.keyed.id_of_lookup? hfound]
            exact hown
          obtain ⟨r, t, t', hrest⟩ := hf queue hqueue h
          refine ⟨r, t, t', ?_, ?_, hrest.indistinct, hrest.outside⟩
          · rw [call_bind_of_ok hfirst]
            exact hrest.first
          · rw [call_bind_of_ok hsecond]
            exact hrest.second

theorem confined_describeQueue (locator : String) (names : List String) :
    Confined caller.account (describeQueue desk caller locator names) :=
  (Confined.ofExcept _).bind fun _ => confined_ownedQueue_bind desk caller fun _ _ => .pure _

theorem confined_purgeQueue (locator : String) :
    Confined caller.account (purgeQueue desk caller locator) :=
  confined_ownedQueue_bind desk caller fun _ hid => .ofAction (confined_purge hid)

theorem confined_deleteQueue (locator : String) :
    Confined caller.account (deleteQueue desk caller locator) := by
  apply confined_ownedQueue_bind
  intro queue hid
  exact (Confined.ofAction (confined_purge hid)).bind fun _ => .ofAction (Backend.confined_deleteQueue hid)

theorem confined_sendTo {queue : Queue} (hid : queue.id.account = caller.account)
    (m : OutboundMessage) : Confined caller.account (sendTo limits caller occasion queue m) := by
  apply (Confined.ofExcept _).bind
  intro message
  exact (Confined.ofAction (Backend.confined_sendMessage hid _ message)).bind fun _ => .pure _

theorem confined_sendMessage (locator : String) (m : OutboundMessage) :
    Confined caller.account (sendMessage desk caller occasion locator m) :=
  confined_ownedQueue_bind desk caller fun _ hid => confined_sendTo desk.limits caller occasion hid m

/-- What a batch comes to with one entry more in front. -/
def outcomeCons (id : String) (sent : Except ServiceError Receipt) (others : BatchOutcome) :
    BatchOutcome :=
  match sent with
  | .ok receipt => { others with successful := (id, receipt) :: others.successful }
  | .error e => { others with failed := (id, e) :: others.failed }

theorem sendEntries_run_cons {queue : Queue} {k : Nat} {entry : BatchEntry} {rest : List BatchEntry}
    {sent : Except ServiceError Receipt} {others : BatchOutcome} {b b₁ b' : Backend}
    (hsend : (sendTo limits caller (occasion.from k) queue entry.message).runOn b = (sent, b₁))
    (hrest : (sendEntries limits caller occasion queue (k + 1) rest).run b₁ = (others, b')) :
    (sendEntries limits caller occasion queue k (entry :: rest)).run b =
      (outcomeCons entry.id sent others, b') := by
  have hrun : ((sendTo limits caller (occasion.from k) queue entry.message).run).run b = (sent, b₁) :=
    hsend
  rw [sendEntries, StateT.run_bind, hrun]
  show (sendEntries limits caller occasion queue (k + 1) rest >>= _).run b₁ = _
  rw [StateT.run_bind, hrest]
  cases sent <;> rfl

/-- The entries of a batch are sent one by one, and the failure of one does not end the batch. -/
theorem paired_sendEntries {queue : Queue} (hid : queue.id.account = caller.account)
    (entries : List BatchEntry) (k : Nat) {s s' : Store} (h : s.Indistinct caller.account s') :
    ∃ outcome t t', (sendEntries limits caller occasion queue k entries).run (.reliable s) =
        (outcome, .reliable t) ∧
      (sendEntries limits caller occasion queue k entries).run (.reliable s') =
        (outcome, .reliable t') ∧
      t.Indistinct caller.account t' ∧ SameOn (·.account ≠ caller.account) s t := by
  induction entries generalizing k s s' with
  | nil => exact ⟨_, s, s', rfl, rfl, h, SameOn.refl _ s⟩
  | cons entry rest ih =>
      obtain ⟨sent, t₁, t₁', hsent⟩ := confined_sendTo limits caller (occasion.from k) hid entry.message h
      obtain ⟨others, t, t', hfirst, hsecond, hindistinct, houtside⟩ := ih (k + 1) hsent.indistinct
      refine ⟨outcomeCons entry.id sent others, t, t', ?_, ?_, hindistinct,
        hsent.outside.trans houtside⟩
      · exact sendEntries_run_cons limits caller occasion hsent.first hfirst
      · exact sendEntries_run_cons limits caller occasion hsent.second hsecond

theorem confined_sendBatch (locator : String) (entries : List BatchEntry) :
    Confined caller.account (sendBatch desk caller occasion locator entries) := by
  apply (Confined.ofExcept _).bind
  intro _
  apply confined_ownedQueue_bind
  intro queue hid s s' h
  obtain ⟨outcome, t, t', hfirst, hsecond, hindistinct, houtside⟩ :=
    paired_sendEntries desk.limits caller occasion hid entries 0 h
  refine ⟨.ok outcome, t, t', ?_, ?_, hindistinct, houtside⟩
  · rw [runOn_lift, hfirst]
  · rw [runOn_lift, hsecond]

theorem confined_receiveMessages (locator : String) (asked : Option Int) :
    Confined caller.account (receiveMessages desk caller occasion locator asked) := by
  apply (Confined.ofExcept _).bind
  intro max
  apply confined_ownedQueue_bind
  intro queue hid
  exact (Confined.ofAction (Backend.confined_receiveMessages hid _ _ max)).bind fun _ => .pure _

theorem confined_deleteMessage (locator handle : String) :
    Confined caller.account (deleteMessage desk caller locator handle) :=
  confined_ownedQueue_bind desk caller fun _ hid => .ofAction (Backend.confined_deleteMessage hid handle)

end Service

open Operation Service in
/-- **Each request is confined to the account of its caller.** -/
theorem Request.confined_serve (desk : Desk) (caller : Caller) (occasion : Occasion)
    (request : Request) : Confined caller.account (request.serve desk caller occasion) := by
  cases request with
  | createQueue name? attributes => exact (confined_createQueue ..).map _
  | queueUrl name? => exact (confined_queueUrl ..).map _
  | listQueues start? => exact (confined_listQueues ..).map _
  | describeQueue locator names => exact (confined_describeQueue ..).map _
  | purgeQueue locator => exact (confined_purgeQueue ..).map _
  | deleteQueue locator => exact (confined_deleteQueue ..).map _
  | sendMessage locator message => exact (confined_sendMessage ..).map _
  | sendBatch locator entries => exact (confined_sendBatch ..).map _
  | receiveMessages locator asked => exact (confined_receiveMessages ..).map _
  | deleteMessage locator handle => exact (confined_deleteMessage ..).map _

/-! ## Runs with callers of several accounts -/

/-- A request of any caller, with the givens of its call. -/
structure Visit where
  desk : Desk
  caller : Caller
  occasion : Occasion
  request : Request

/-- What becomes of a request. -/
def Visit.serve (visit : Visit) (b : Backend) : Turn × Backend :=
  let (outcome, b') := (visit.request.serve visit.desk visit.caller visit.occasion).runOn b
  ({ visit with outcome }, b')

/-- Serve requests of any callers one after the other. -/
def serveVisits (b : Backend) : List Visit → List Turn × Backend
  | [] => ([], b)
  | visit :: rest =>
    let (turn, b₁) := visit.serve b
    let (turns, b') := serveVisits b₁ rest
    (turn :: turns, b')

/-- The requests that callers of an account made. -/
def visitsOf (account : String) (visits : List Visit) : List Visit :=
  visits.filter (·.caller.account == account)

/-- What became of the requests that callers of an account made. -/
def turnsOf (account : String) (turns : List Turn) : List Turn :=
  turns.filter (·.caller.account == account)

section Runs

variable {account : String} {visit : Visit} {visits : List Visit} {turn : Turn} {turns : List Turn}

theorem visitsOf_cons_of_eq (h : visit.caller.account = account) :
    visitsOf account (visit :: visits) = visit :: visitsOf account visits :=
  List.filter_cons_of_pos (beq_iff_eq.mpr h)

theorem visitsOf_cons_of_ne (h : visit.caller.account ≠ account) :
    visitsOf account (visit :: visits) = visitsOf account visits :=
  List.filter_cons_of_neg fun heq => h (beq_iff_eq.mp heq)

theorem turnsOf_cons_of_eq (h : turn.caller.account = account) :
    turnsOf account (turn :: turns) = turn :: turnsOf account turns :=
  List.filter_cons_of_pos (beq_iff_eq.mpr h)

theorem turnsOf_cons_of_ne (h : turn.caller.account ≠ account) :
    turnsOf account (turn :: turns) = turnsOf account turns :=
  List.filter_cons_of_neg fun heq => h (beq_iff_eq.mp heq)

theorem serveVisits_cons {b b₁ b' : Backend} {outcome : Except ServiceError Reply}
    (hserve : (visit.request.serve visit.desk visit.caller visit.occasion).runOn b = (outcome, b₁))
    (hrest : serveVisits b₁ visits = (turns, b')) :
    serveVisits b (visit :: visits) = ({ visit with outcome } :: turns, b') := by
  rw [serveVisits, Visit.serve, hserve]
  dsimp only
  rw [hrest]

end Runs

/-- Two runs on stores that an account cannot tell apart, one of them without the requests of other
    accounts. -/
theorem paired_serveVisits (account : String) (visits : List Visit) {s s' : Store}
    (h : s.Indistinct account s') :
    ∃ turns t t', serveVisits (.reliable s) visits = (turns, .reliable t) ∧
      serveVisits (.reliable s') (visitsOf account visits) = (turnsOf account turns, .reliable t') ∧
      t.Indistinct account t' := by
  induction visits generalizing s s' with
  | nil => exact ⟨[], s, s', rfl, rfl, h⟩
  | cons visit rest ih =>
      by_cases hcaller : visit.caller.account = account
      · -- a request of the account is served in both runs
        have hconfined := visit.request.confined_serve visit.desk visit.caller visit.occasion
        rw [hcaller] at hconfined
        obtain ⟨outcome, s₁, s₁', hserved⟩ := hconfined h
        obtain ⟨turns, t, t', hfull, hown, hindistinct⟩ := ih hserved.indistinct
        refine ⟨_, t, t', serveVisits_cons hserved.first hfull, ?_, hindistinct⟩
        rw [visitsOf_cons_of_eq hcaller, turnsOf_cons_of_eq hcaller]
        exact serveVisits_cons hserved.second hown
      · -- one of another account is served in the first run only, and changes nothing for this one
        obtain ⟨outcome, s₁, _, hserved⟩ := visit.request.confined_serve visit.desk visit.caller
          visit.occasion (h.keyed.indistinct visit.caller.account)
        have hnext : s₁.Indistinct account s' :=
          h.change (Ne.symm hcaller) hserved.outside hserved.indistinct.keyed
        obtain ⟨turns, t, t', hfull, hown, hindistinct⟩ := ih hnext
        refine ⟨_, t, t', serveVisits_cons hserved.first hfull, ?_, hindistinct⟩
        rw [visitsOf_cons_of_ne hcaller, turnsOf_cons_of_ne hcaller]
        exact hown

/-- **Accounts are isolated.** Leaving out of a run all requests of other accounts changes neither what
    the callers of an account are answered nor what is held of its queues. Each request that stays keeps
    the givens of its call, so that it reads the same clock and draws the same identifiers. -/
theorem serveVisits_isolated (account : String) (visits : List Visit) :
    (serveVisits (.reliable .empty) (visitsOf account visits)).1 =
        turnsOf account (serveVisits (.reliable .empty) visits).1 ∧
      ∀ name, (serveVisits (.reliable .empty) (visitsOf account visits)).2.store.held? ⟨account, name⟩ =
        (serveVisits (.reliable .empty) visits).2.store.held? ⟨account, name⟩ := by
  have hempty : Store.empty.Keyed := fun _ _ hq => nomatch hq
  obtain ⟨turns, t, t', hfull, hown, hindistinct⟩ :=
    paired_serveVisits account visits (hempty.indistinct account)
  rw [hfull, hown]
  exact ⟨rfl, fun name => hindistinct.same rfl⟩

end QueueService
