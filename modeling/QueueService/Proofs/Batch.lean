import QueueService.Proofs.Atomicity

/-!
# Batches

Sending a batch is sending its messages one after the other. Each single send looks the queue up
again, while a batch looks it up once; the two agree because no send changes a record (`Steady`), which
is what the simulation `sendEntries_eq_sendEach` carries along. What the sends leave in the queue is
written down in a `Transcript`, by a second induction.

* `sendBatch_eq_sendEach` — the statement for all batches and all faults of the sends.
-/

namespace QueueService

open Operation

/-! ## Outcomes -/

namespace BatchOutcome

/-- The outcome of a batch whose entries fared as listed: successes and failures, each in order. -/
def ofResults (results : List (String × Except ServiceError Receipt)) : BatchOutcome :=
  { successful := results.filterMap fun r => r.2.toOption.map (r.1, ·)
    failed := results.filterMap fun r =>
      match r.2 with
      | .ok _ => none
      | .error e => some (r.1, e) }

/-- The identifiers of an outcome, successes first. -/
def ids (outcome : BatchOutcome) : List String :=
  outcome.successful.map (·.1) ++ outcome.failed.map (·.1)

theorem ofResults_ok (id : String) (receipt : Receipt)
    (rest : List (String × Except ServiceError Receipt)) :
    ofResults ((id, .ok receipt) :: rest) =
      { ofResults rest with successful := (id, receipt) :: (ofResults rest).successful } := rfl

theorem ofResults_error (id : String) (e : ServiceError)
    (rest : List (String × Except ServiceError Receipt)) :
    ofResults ((id, .error e) :: rest) =
      { ofResults rest with failed := (id, e) :: (ofResults rest).failed } := rfl

/-- No entry is lost and none is told twice. -/
theorem ids_ofResults (results : List (String × Except ServiceError Receipt)) :
    (ofResults results).ids.Perm (results.map (·.1)) := by
  induction results with
  | nil => exact .nil
  | cons head rest ih =>
      obtain ⟨id, e | receipt⟩ := head
      · rw [ofResults_error]
        exact List.perm_middle.trans (ih.cons id)
      · rw [ofResults_ok]
        exact ih.cons id

end BatchOutcome

namespace Service

/-! ## Sending one by one -/

/-- Send the messages of entries one after the other, each by a call of its own. The `k`-th call draws
    what the `k`-th entry of a batch would draw. -/
def sendEach (desk : Desk) (caller : Caller) (occasion : Occasion) (locator : String) (k : Nat) :
    List BatchEntry → StateM Backend (List (String × Except ServiceError Receipt))
  | [] => return []
  | entry :: rest => do
    let sent ← (sendMessage desk caller (occasion.from k) locator entry.message).run
    let others ← sendEach desk caller occasion locator (k + 1) rest
    return (entry.id, sent) :: others

section Send

variable {limits : Limits} {caller : Caller} {occasion : Occasion} {queue : Queue}
  {m : OutboundMessage} {b b' : Backend}

/-- A send that is answered has put the prepared message at the end of the queue. -/
theorem sendTo_ok {receipt : Receipt}
    (h : (sendTo limits caller occasion queue m).runOn b = (.ok receipt, b')) :
    ∃ message q,
      m.prepare limits caller.account queue (occasion.clock 0) (occasion.messageIds 0) = .ok message ∧
      receipt = Receipt.ofMessage message ∧ b.store.held? queue.id = some q ∧
      b'.store = b.store.setHeld queue.id
        { q with messages := q.messages ++ [Store.hold (occasion.clock 0) message q] } := by
  unfold sendTo at h
  obtain ⟨message, _, hverdict, h⟩ := bind_ok h
  obtain ⟨hprepare, rfl⟩ := ofExcept_ok hverdict
  obtain ⟨_, b₁, hsend, h⟩ := bind_ok h
  cases h
  cases Backend.call_answer (ofAction_ok hsend) with
  | granted done =>
      obtain ⟨q, hq, hs⟩ := Store.send_ok done
      exact ⟨message, q, hprepare, rfl, hq, hs⟩
  | missed _ answer => cases answer

/-- A send that fails has been refused for its message, or the store has not taken the message. -/
theorem sendTo_error {e : ServiceError}
    (h : (sendTo limits caller occasion queue m).runOn b = (.error e, b')) :
    m.prepare limits caller.account queue (occasion.clock 0) (occasion.messageIds 0) = .error e ∨
      ∃ message cause,
        m.prepare limits caller.account queue (occasion.clock 0) (occasion.messageIds 0) =
          .ok message ∧
        e = .store cause := by
  unfold sendTo at h
  rcases bind_error h with hverdict | ⟨message, _, hverdict, h⟩
  · exact Or.inl (Prod.mk.inj hverdict).1
  · obtain ⟨hprepare, rfl⟩ := ofExcept_ok hverdict
    rcases bind_error h with hsend | ⟨_, _, -, h⟩
    · obtain ⟨cause, he, -⟩ := ofAction_error hsend
      exact Or.inr ⟨message, cause, hprepare, he⟩
    · cases h

/-- No send makes a look-up. -/
theorem spares_sendTo : Spares .lookupQueue (sendTo limits caller occasion queue m) := by
  refine (Spares.ofExcept ..).bind fun message => ?_
  exact (Spares.call (by decide) ..).bind fun _ => Spares.pure ..

/-- No send changes a record. -/
theorem sendTo_lookup? {r : Except ServiceError Receipt}
    (h : (sendTo limits caller occasion queue m).runOn b = (r, b')) (id : QueueId) :
    b'.store.lookup? id = b.store.lookup? id := by
  rcases r with e | receipt
  · rw [failsClean_sendTo _ _ _ _ _ h]
  · obtain ⟨message, q, -, -, hq, hs⟩ := sendTo_ok h
    rw [hs, Store.lookup?_setHeld_messages hq]

end Send

/-! ## The simulation -/

/-- **Steady.** The locator names the queue, and every look-up tells so. -/
structure Steady (desk : Desk) (caller : Caller) (locator : String) (queue : Queue) (b : Backend) :
    Prop where
  faults : b.faults .lookupQueue = []
  owned : (ownedQueue desk caller locator).runOn b = (.ok queue, b)

section Steady

variable {desk : Desk} {caller : Caller} {occasion : Occasion} {locator : String} {queue : Queue}
  {b b' : Backend}

/-- On backends with the same records, and without faults of look-ups, a locator names the same
    queue. -/
theorem ownedQueue_congr {b₁ : Backend} (hb : b.faults .lookupQueue = [])
    (hb' : b'.faults .lookupQueue = []) (hs : ∀ id, b'.store.lookup? id = b.store.lookup? id)
    (h : (ownedQueue desk caller locator).runOn b = (.ok queue, b₁)) :
    (ownedQueue desk caller locator).runOn b' = (.ok queue, b') := by
  unfold ownedQueue at h ⊢
  split at h
  · cases h
  · next id hid =>
    split at h
    · cases h
    · next hown =>
      rw [call_bind_of_ok (Backend.lookupQueue_of_nil id hb)] at h
      rw [if_neg hown, call_bind_of_ok (Backend.lookupQueue_of_nil id hb'), hs]
      cases hlook : b.store.lookup? id with
      | none => rw [hlook] at h; cases h
      | some found => rw [hlook] at h; cases h; rfl

/-- Sends keep a backend steady. -/
theorem Steady.sendTo {m : OutboundMessage} {r : Except ServiceError Receipt}
    (hb : Steady desk caller locator queue b)
    (h : (sendTo desk.limits caller occasion queue m).runOn b = (r, b')) :
    Steady desk caller locator queue b' := by
  have hfaults : b'.faults .lookupQueue = [] := (spares_sendTo h).trans hb.faults
  exact ⟨hfaults, ownedQueue_congr hb.faults hfaults (sendTo_lookup? h) hb.owned⟩

/-- On a steady backend a send by locator is a send to the queue. -/
theorem Steady.sendMessage (hb : Steady desk caller locator queue b) (m : OutboundMessage) :
    (sendMessage desk caller occasion locator m).runOn b =
      (Service.sendTo desk.limits caller occasion queue m).runOn b :=
  runOn_bind_of_ok hb.owned

/-- The first of the single sends, then the others. -/
theorem sendEach_cons {k : Nat} {entry : BatchEntry} {rest : List BatchEntry}
    {results : List (String × Except ServiceError Receipt)}
    (h : (sendEach desk caller occasion locator k (entry :: rest)).run b = (results, b')) :
    ∃ sent others b₁,
      (Service.sendMessage desk caller (occasion.from k) locator entry.message).runOn b = (sent, b₁) ∧
      (sendEach desk caller occasion locator (k + 1) rest).run b₁ = (others, b') ∧
      results = (entry.id, sent) :: others := by
  cases h
  exact ⟨_, _, _, rfl, rfl, rfl⟩

/-- The first of the entries, then the others. -/
theorem sendEntries_cons {k : Nat} {entry : BatchEntry} {rest : List BatchEntry}
    {sent : Except ServiceError Receipt} {others : List (String × Except ServiceError Receipt)}
    {b₁ : Backend}
    (hsend : (Service.sendTo desk.limits caller (occasion.from k) queue entry.message).runOn b =
      (sent, b₁))
    (hrest : (sendEntries desk.limits caller occasion queue (k + 1) rest).run b₁ =
      (.ofResults others, b')) :
    (sendEntries desk.limits caller occasion queue k (entry :: rest)).run b =
      (.ofResults ((entry.id, sent) :: others), b') := by
  have hrun : ((Service.sendTo desk.limits caller (occasion.from k) queue entry.message).run).run b =
      (sent, b₁) := hsend
  rw [sendEntries, StateT.run_bind, hrun]
  show (sendEntries desk.limits caller occasion queue (k + 1) rest >>= _).run b₁ = _
  rw [StateT.run_bind, hrest]
  cases sent <;> rfl

/-- **Simulation.** On a steady backend the entries of a batch fare as single sends do, and leave the
    same backend behind. -/
theorem sendEntries_eq_sendEach {entries : List BatchEntry} {k : Nat}
    {results : List (String × Except ServiceError Receipt)}
    (hb : Steady desk caller locator queue b)
    (h : (sendEach desk caller occasion locator k entries).run b = (results, b')) :
    (sendEntries desk.limits caller occasion queue k entries).run b = (.ofResults results, b') := by
  induction entries generalizing k b results with
  | nil => cases h; rfl
  | cons entry rest ih =>
      obtain ⟨sent, others, b₁, hsend, hrest, rfl⟩ := sendEach_cons h
      rw [hb.sendMessage] at hsend
      exact sendEntries_cons hsend (ih (hb.sendTo hsend) hrest)

/-! ## What a batch leaves in the queue -/

/-- **Transcript.** How the entries from the `k`-th on fared one by one, and the messages that they put
    into the queue: each answered entry its own, as it was prepared and as the queue's record has it
    held, and an entry that was refused or not taken none. -/
inductive Transcript (limits : Limits) (caller : Caller) (occasion : Occasion) (queue : Queue)
    (s : Store) : Nat → List BatchEntry → List (String × Except ServiceError Receipt) →
      List HeldMessage → Prop
  | done {k : Nat} : Transcript limits caller occasion queue s k [] [] []
  | sent {k : Nat} {entry : BatchEntry} {rest : List BatchEntry} {message : Message} {q : HeldQueue}
      {others : List (String × Except ServiceError Receipt)} {appended : List HeldMessage}
      (prepared : entry.message.prepare limits caller.account queue (occasion.clock k)
        (occasion.messageIds k) = .ok message)
      (held : s.held? queue.id = some q)
      (onward : Transcript limits caller occasion queue s (k + 1) rest others appended) :
      Transcript limits caller occasion queue s k (entry :: rest)
        ((entry.id, .ok (Receipt.ofMessage message)) :: others)
        (Store.hold (occasion.clock k) message q :: appended)
  | refused {k : Nat} {entry : BatchEntry} {rest : List BatchEntry} {e : ServiceError}
      {others : List (String × Except ServiceError Receipt)} {appended : List HeldMessage}
      (verdict : entry.message.prepare limits caller.account queue (occasion.clock k)
        (occasion.messageIds k) = .error e)
      (onward : Transcript limits caller occasion queue s (k + 1) rest others appended) :
      Transcript limits caller occasion queue s k (entry :: rest) ((entry.id, .error e) :: others)
        appended
  | notTaken {k : Nat} {entry : BatchEntry} {rest : List BatchEntry} {message : Message}
      {cause : StoreError} {others : List (String × Except ServiceError Receipt)}
      {appended : List HeldMessage}
      (prepared : entry.message.prepare limits caller.account queue (occasion.clock k)
        (occasion.messageIds k) = .ok message)
      (onward : Transcript limits caller occasion queue s (k + 1) rest others appended) :
      Transcript limits caller occasion queue s k (entry :: rest)
        ((entry.id, .error (.store cause)) :: others) appended

/-- Every entry is told of under its identifier, in order. -/
theorem Transcript.ids {limits : Limits} {s : Store} {k : Nat} {entries : List BatchEntry}
    {results : List (String × Except ServiceError Receipt)} {appended : List HeldMessage}
    (h : Transcript limits caller occasion queue s k entries results appended) :
    results.map (·.1) = entries.map (·.id) := by
  induction h with
  | done => rfl
  | sent _ _ _ ih => exact congrArg _ ih
  | refused _ _ ih => exact congrArg _ ih
  | notTaken _ _ ih => exact congrArg _ ih

/-- Single sends from a steady backend have a transcript, and the queue has what it says. The induction
    is on the entries; `sofar` is what the sends before them put into the queue of `s`. -/
theorem sendEach_transcript {s : Store} {sofar : List HeldMessage} {entries : List BatchEntry}
    {k : Nat} {results : List (String × Except ServiceError Receipt)}
    (hb : Steady desk caller locator queue b) (hsofar : s.Appends queue.id sofar b.store)
    (h : (sendEach desk caller occasion locator k entries).run b = (results, b')) :
    ∃ appended, Transcript desk.limits caller occasion queue s k entries results appended ∧
      s.Appends queue.id (sofar ++ appended) b'.store := by
  induction entries generalizing k b results sofar with
  | nil =>
      cases h
      exact ⟨[], .done, (List.append_nil sofar).symm ▸ hsofar⟩
  | cons entry rest ih =>
      obtain ⟨sent, others, b₁, hsend, hrest, rfl⟩ := sendEach_cons h
      rw [hb.sendMessage] at hsend
      rcases sent with e | receipt
      · -- a failed send has left the store alone
        have hs₁ : s.Appends queue.id sofar b₁.store := by
          rw [failsClean_sendTo _ _ _ _ _ hsend]
          exact hsofar
        obtain ⟨appended, hscript, happ⟩ := ih (hb.sendTo hsend) hs₁ hrest
        refine ⟨appended, ?_, happ⟩
        rcases sendTo_error hsend with hrefused | ⟨message, cause, hprepare, rfl⟩
        · exact .refused hrefused hscript
        · exact .notTaken hprepare hscript
      · obtain ⟨message, q', hprepare, rfl, hq', hs₁⟩ := sendTo_ok hsend
        -- the queue has grown, but its record is that of the queue in `s`
        have hown := hsofar.own
        rw [hq'] at hown
        obtain ⟨q, hq, rfl⟩ := Option.map_eq_some_iff.mp hown.symm
        have happ₁ : s.Appends queue.id (sofar ++ [Store.hold (occasion.clock k) message q])
            b₁.store := by
          refine hsofar.trans ?_
          rw [hs₁]
          exact Store.appends_setHeld hq' _
        obtain ⟨appended, hscript, happ⟩ := ih (hb.sendTo hsend) happ₁ hrest
        refine ⟨_ :: appended, .sent hprepare hq hscript, ?_⟩
        rwa [List.append_assoc] at happ

end Steady

/-! ## All batches -/

/-- Accepted identifiers differ from each other and from those seen before. -/
theorem checkEntryIds_ok {seen ids : List String} (h : checkEntryIds seen ids = .ok ()) :
    ids.Nodup ∧ ∀ id ∈ ids, id ∉ seen := by
  induction ids generalizing seen with
  | nil => exact ⟨List.nodup_nil, fun _ hmem => (List.not_mem_nil hmem).elim⟩
  | cons id rest ih =>
      unfold checkEntryIds at h
      split at h
      · cases h
      · split at h
        · cases h
        · next hnew =>
          obtain ⟨hnodup, hfresh⟩ := ih h
          have hid : id ∉ seen := fun hmem => hnew (List.contains_iff_mem.mpr hmem)
          refine ⟨List.nodup_cons.mpr ⟨?_, hnodup⟩, ?_⟩
          · intro hmem
            exact hfresh id hmem List.mem_cons_self
          · intro id' hmem
            rcases List.mem_cons.mp hmem with rfl | hmem
            · exact hid
            · exact fun hseen => hfresh id' hmem (List.mem_cons_of_mem id hseen)

/-- Accepted identifiers are drawn from their alphabet. -/
theorem isBatchEntryId_of_checkEntryIds {seen ids : List String} (h : checkEntryIds seen ids = .ok ()) :
    ∀ id ∈ ids, Alphabet.isBatchEntryId id = true := by
  induction ids generalizing seen with
  | nil => exact fun _ hmem => (List.not_mem_nil hmem).elim
  | cons id rest ih =>
      unfold checkEntryIds at h
      split at h
      · cases h
      · next hid =>
        split at h
        · cases h
        · rw [List.forall_mem_cons]
          exact ⟨by simpa using hid, ih h⟩

/-- The identifiers of a batch of accepted shape have been accepted. -/
theorem checkBatch_ok {ids : List String} (h : checkBatch ids = .ok ()) : checkEntryIds [] ids = .ok () := by
  unfold checkBatch at h
  split at h
  · cases h
  · split at h
    · cases h
    · exact h

/-- The identifiers of a batch of accepted shape are distinct. -/
theorem checkBatch_nodup {ids : List String} (h : checkBatch ids = .ok ()) : ids.Nodup :=
  (checkEntryIds_ok (checkBatch_ok h)).1

variable {desk : Desk} {caller : Caller} {locator : String} {queue : Queue}
  {entries : List BatchEntry} {b b₁ : Backend}

/-- A queue that is found without faults of look-ups is found again. -/
theorem steady_of_owned (hfaults : b.faults .lookupQueue = [])
    (h : (ownedQueue desk caller locator).runOn b = (.ok queue, b₁)) :
    Steady desk caller locator queue b :=
  ⟨hfaults, ownedQueue_congr hfaults hfaults (fun _ => rfl) h⟩

/-- **A batch is its single sends.** A batch of accepted shape whose queue is found is answered,
    whatever the faults of the sends: every entry fares as its message does when the messages are sent
    one after the other, is told of once, and the backend is the one that the single sends leave. The
    queue has the messages of the answered entries behind those that it had, in order. -/
theorem sendBatch_eq_sendEach (occasion : Occasion)
    (hshape : checkBatch (entries.map (·.id)) = .ok ()) (hfaults : b.faults .lookupQueue = [])
    (howned : (ownedQueue desk caller locator).runOn b = (.ok queue, b₁)) :
    ∃ results appended b',
      (sendEach desk caller occasion locator 0 entries).run b = (results, b') ∧
      (sendBatch desk caller occasion locator entries).runOn b = (.ok (.ofResults results), b') ∧
      Transcript desk.limits caller occasion queue b.store 0 entries results appended ∧
      b.store.Appends queue.id appended b'.store ∧
      (BatchOutcome.ofResults results).ids.Perm (entries.map (·.id)) ∧
      (BatchOutcome.ofResults results).ids.Nodup := by
  have hb : Steady desk caller locator queue b := steady_of_owned hfaults howned
  rcases hsends : (sendEach desk caller occasion locator 0 entries).run b with ⟨results, b'⟩
  obtain ⟨appended, hscript, happ⟩ := sendEach_transcript hb (Store.Appends.refl _ _) hsends
  have hids : (BatchOutcome.ofResults results).ids.Perm (entries.map (·.id)) := by
    rw [← hscript.ids]
    exact BatchOutcome.ids_ofResults results
  refine ⟨results, appended, b', rfl, ?_, hscript, happ, hids, ?_⟩
  · unfold sendBatch
    rw [hshape, runOn_bind_of_ok (runOn_ofExcept _ _), runOn_bind_of_ok hb.owned, runOn_lift,
      sendEntries_eq_sendEach hb hsends]
  · exact hids.nodup_iff.mpr (checkBatch_nodup hshape)

/-- A queue the second send to which fails. -/
def faltering : Backend :=
  { store := Sample.store "q" [Sample.held "old"]
    faults := FaultPlan.none.append .sendMessage [none, some (.failure (.backend "down"))] }

/-- A batch with one message that is refused, the second. -/
def mixedBatch : List BatchEntry :=
  [("a", some "one"), ("b", none), ("c", some "two"), ("d", some "three")].map fun (id, body?) =>
    { id, message := { body?, delay? := none, attributes := [] } }

/-- The refused message makes no call, so that the fault meets the third. -/
theorem sendBatch_eq_sendEach_mixedBatch :
    ∃ outcome b', (sendBatch Sample.desk Sample.caller Sample.occasion (Sample.locator "q")
        mixedBatch).runOn faltering = (.ok outcome, b') ∧
      outcome.successful.map (·.1) = ["a", "d"] ∧
      outcome.failed = [("b", .bodyMissing), ("c", .store (.backend "down"))] ∧
      outcome.ids.Perm ["a", "b", "c", "d"] ∧
      (b'.store.held? (Sample.id "q")).map (·.messages.map (·.message.body)) =
        some ["old", "one", "three"] := by
  have howned : (ownedQueue Sample.desk Sample.caller (Sample.locator "q")).runOn faltering =
      (.ok (Queue.new (Sample.id "q") .standard 0), _) := rfl
  have hshape : checkBatch (mixedBatch.map (·.id)) = .ok () := rfl
  obtain ⟨results, appended, b', hsends, hbatch, -, -, hids, -⟩ :=
    sendBatch_eq_sendEach Sample.occasion hshape rfl howned
  refine ⟨_, b', hbatch, ?_, ?_, hids, ?_⟩ <;> cases hsends <;> rfl

end Service

end QueueService
