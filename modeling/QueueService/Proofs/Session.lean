import QueueService.Proofs.Batch
import QueueService.Proofs.Preparation
import QueueService.Proofs.Store.Run
import Mathlib.Data.List.Forall2

/-!
# Sessions

Requests served one after the other, whatever the faults of the calls. Behind every session that began
with an empty store there is a run of the store (`Session.exists_run`), in whose log stand the messages
that the session has taken, each as it was prepared, and those that it has handed out, which the
receivers see without what the store notes on them for itself.

## Contents
- `Turn`, `Accepted`, `Session`: sessions, with what they took and handed out.
- `Tells`: what the log of the store tells of a session.
- `Operation.Quiet`: operations that neither take nor hand out messages.
- `Turn.exists_path`: the one lemma on all requests.
-/

namespace QueueService

open Operation Store

/-! ## Sessions -/

/-- A request with the givens of its call, and what came of it. -/
structure Turn where
  desk : Desk
  caller : Caller
  occasion : Occasion
  request : Request
  outcome : Except ServiceError Reply

/-- A message that the service has taken: how it was offered, by whom and when, and its receipt. -/
structure Accepted where
  limits : Limits
  sender : String
  now : Int
  message : OutboundMessage
  receipt : Receipt

/-- The entries of a batch, from the `k`-th on, that were answered with a receipt. -/
def acceptedEntries (limits : Limits) (caller : Caller) (occasion : Occasion)
    (answers : List (String × Receipt)) (k : Nat) : List BatchEntry → List Accepted
  | [] => []
  | entry :: rest =>
    ((answers.lookup entry.id).map fun receipt =>
      { limits, sender := caller.account, now := occasion.clock k, message := entry.message, receipt
        : Accepted }).toList ++
      acceptedEntries limits caller occasion answers (k + 1) rest

namespace Turn

/-- The messages that a turn took. -/
def accepts (turn : Turn) : List Accepted :=
  match turn.request, turn.outcome with
  | .sendMessage _ message, .ok (.sent receipt) =>
    [{ limits := turn.desk.limits, sender := turn.caller.account, now := turn.occasion.clock 0
       message, receipt }]
  | .sendBatch _ entries, .ok (.batch outcome) =>
    acceptedEntries turn.desk.limits turn.caller turn.occasion outcome.successful 0 entries
  | _, _ => []

/-- The messages that a turn handed out, each with the reading of the clock. -/
def returns (turn : Turn) : List (Int × Message) :=
  match turn.request, turn.outcome with
  | .receiveMessages _ _, .ok (.messages given) => given.map (turn.occasion.clock 0, ·)
  | _, _ => []

end Turn

/-- Turns one after the other. -/
inductive Session (b₀ : Backend) : List Turn → Backend → Prop
  | start : Session b₀ [] b₀
  | next {turns : List Turn} {b b' : Backend} {turn : Turn} (past : Session b₀ turns b)
      (served : (turn.request.serve turn.desk turn.caller turn.occasion).runOn b =
        (turn.outcome, b')) :
      Session b₀ (turns ++ [turn]) b'

/-- Serve requests of one caller one after the other. -/
def serveAll (desk : Desk) (caller : Caller) (b : Backend) :
    List (Occasion × Request) → List Turn × Backend
  | [] => ([], b)
  | (occasion, request) :: rest =>
    let (outcome, b₁) := (request.serve desk caller occasion).runOn b
    let (turns, b') := serveAll desk caller b₁ rest
    ({ desk, caller, occasion, request, outcome } :: turns, b')

theorem Session.trans {b b₁ b' : Backend} {turns more : List Turn} (h : Session b turns b₁)
    (h' : Session b₁ more b') : Session b (turns ++ more) b' := by
  induction h' with
  | start => rwa [List.append_nil]
  | next past served ih =>
      rw [← List.append_assoc]
      exact ih.next served

/-- Whatever is asked for, there is a session of it. -/
theorem session_serveAll (desk : Desk) (caller : Caller) (b : Backend)
    (requests : List (Occasion × Request)) :
    Session b (serveAll desk caller b requests).1 (serveAll desk caller b requests).2 := by
  induction requests generalizing b with
  | nil => exact .start
  | cons first rest ih => exact (Session.start.next rfl).trans (ih _)

theorem serveAll_requests (desk : Desk) (caller : Caller) (b : Backend)
    (requests : List (Occasion × Request)) :
    (serveAll desk caller b requests).1.map Turn.request = requests.map Prod.snd := by
  induction requests generalizing b with
  | nil => rfl
  | cons first rest ih => exact congrArg (first.2 :: ·) (ih _)

/-- The messages that a session took, in order. -/
def accepted (turns : List Turn) : List Accepted := turns.flatMap Turn.accepts

/-- The messages that a session handed out, in order, each with the reading of the clock. -/
def handedOut (turns : List Turn) : List (Int × Message) := turns.flatMap Turn.returns

/-! ## What the log tells -/

/-- **As prepared.** The message that was put into the queue is the one that was offered, prepared for the
    record of the queue, and the sender has the receipt of it. -/
structure Accepted.Put (a : Accepted) (x : Sending) : Prop where
  prepared : a.message.prepare a.limits a.sender x.queue a.now x.message.id = .ok x.message
  receipt : a.receipt = Receipt.ofMessage x.message
  now : x.now = a.now

/-- **What the log of the store tells.** The messages taken are those that were put into queues, and the
    messages handed out are those that receives handed out, without internal attributes. -/
structure Tells (took : List Accepted) (gave : List (Int × Message)) (log : List Step) : Prop where
  sends : List.Forall₂ Accepted.Put took (sendings log)
  returns : gave = (returned log).map fun r => (r.1, r.2.stripInternal)

theorem Tells.append {took took' : List Accepted} {gave gave' : List (Int × Message)}
    {log log' : List Step} (h : Tells took gave log) (h' : Tells took' gave' log') :
    Tells (took ++ took') (gave ++ gave') (log ++ log') := by
  refine ⟨?_, ?_⟩
  · rw [sendings_append]
    exact List.rel_append h.sends h'.sends
  · rw [returned_append, List.map_append, h.returns, h'.returns]

/-- A log without sends and receives tells of nothing. -/
theorem Tells.nothing {log : List Step} (hsends : sendings log = []) (hreturns : returned log = []) :
    Tells [] [] log := by
  refine ⟨hsends ▸ .nil, ?_⟩
  rw [hreturns]
  rfl

/-- The entries of related lists stand under the same numbers. -/
theorem getElem?_of_forall₂ {α β : Type} {R : α → β → Prop} {l : List α} {l' : List β}
    (h : List.Forall₂ R l l') {n : Nat} {b : β} (hb : l'[n]? = some b) :
    ∃ a, l[n]? = some a ∧ R a b := by
  induction h generalizing n with
  | nil => cases hb
  | cons hr _ ih =>
      cases n with
      | zero => cases hb; exact ⟨_, rfl, hr⟩
      | succ n => exact ih hb

/-! ## Quiet operations -/

/-- The store has gone on by a log that neither sends nor receives. -/
def Backend.Quiet (b b' : Backend) : Prop :=
  ∃ log, Path b.store log b'.store ∧ sendings log = [] ∧ returned log = []

theorem Backend.Quiet.of_store {b b' : Backend} (h : b'.store = b.store) : b.Quiet b' :=
  ⟨[], h ▸ .start, rfl, rfl⟩

theorem Backend.Quiet.trans {b b₁ b' : Backend} (h : b.Quiet b₁) (h' : b₁.Quiet b') : b.Quiet b' := by
  obtain ⟨log, path, hsends, hreturns⟩ := h
  obtain ⟨log', path', hsends', hreturns'⟩ := h'
  refine ⟨log ++ log', path.trans path', ?_, ?_⟩
  · rw [sendings_append, hsends, hsends', List.append_nil]
  · rw [returned_append, hreturns, hreturns', List.append_nil]

namespace Operation

variable {α β : Type}

/-- **Quiet.** The operation neither takes nor hands out messages, whatever it does to the store. -/
def Quiet (op : Operation α) : Prop :=
  ∀ ⦃b b' : Backend⦄ ⦃r : Except ServiceError α⦄, runOn op b = (r, b') → b.Quiet b'

theorem Reads.quiet {op : Operation α} (h : Reads op) : Quiet op :=
  fun _ _ _ hop => .of_store (h hop).1

theorem Quiet.bind {op : Operation α} {f : α → Operation β} (hop : Quiet op)
    (hf : ∀ a, Quiet (f a)) : Quiet (op >>= f) :=
  bind_trans (fun _ _ _ h h' => h.trans h') hop hf

theorem Quiet.map {op : Operation α} (g : α → β) (hop : Quiet op) : Quiet (g <$> op) := by
  intro b b' r h
  rw [runOn_map] at h
  cases h
  exact hop rfl

section Call

variable {c : Call} {missed : Option α} {act : Store → Except StoreError (α × Store)}
  (command : Command)

/-- A call that is answered as a command that neither sends nor receives. -/
theorem quiet_of_call
    (does : ∀ {s a s'}, act s = .ok (a, s') → ∃ note, s.execute command = .ok (note, s'))
    (silent : ∀ note, Step.sends ⟨command, .ok note⟩ = [] ∧ Step.returns ⟨command, .ok note⟩ = [])
    {b b' : Backend} {r : Except StoreError α} (h : (Backend.call c missed act).runOn b = (r, b')) :
    b.Quiet b' := by
  cases Backend.call_answer h with
  | granted done =>
      obtain ⟨note, hexecute⟩ := does done
      obtain ⟨hsends, hreturns⟩ := silent note
      exact ⟨_, Path.single hexecute, (sendings_singleton _).trans hsends,
        (returned_singleton _).trans hreturns⟩
  | failed | missed | refused => exact .of_store rfl

theorem Quiet.call
    (does : ∀ {s a s'}, act s = .ok (a, s') → ∃ note, s.execute command = .ok (note, s'))
    (silent : ∀ note, Step.sends ⟨command, .ok note⟩ = [] ∧ Step.returns ⟨command, .ok note⟩ = []) :
    Quiet (ofAction (Backend.call c missed act)) := by
  intro b b' r h
  rw [runOn_ofAction] at h
  cases h
  exact quiet_of_call command does silent rfl

end Call

end Operation

namespace Service

section Quiet

variable (desk : Desk) (caller : Caller) (occasion : Occasion)

theorem quiet_existingOrCreate (now : Int) (id : QueueId) (attributes : QueueAttributes) :
    Quiet (existingOrCreate now id attributes) := by
  intro b b' r h
  cases existingOrCreate_placement h with
  | found look => exact .of_store (Backend.lookupQueue_store look)
  | created look make =>
      refine (Backend.Quiet.of_store (Backend.lookupQueue_store look)).trans ?_
      refine quiet_of_call (.create now id attributes) ?_ ?_ make
      · intro s a s' hcreate
        exact ⟨_, by rw [execute, hcreate]; rfl⟩
      · exact fun _ => ⟨rfl, rfl⟩
  | overtaken look make again => exact .of_store (overtaken_store look make again)
  | failed store => exact .of_store store

theorem quiet_createQueue (name? : Option String) (supplied : List (String × String)) :
    Quiet (createQueue desk caller occasion name? supplied) := by
  refine (Reads.ofExcept _).quiet.bind fun name => ?_
  refine (reads_queueAttributes ..).quiet.bind fun attributes => ?_
  refine (quiet_existingOrCreate ..).bind fun existing? => ?_
  cases existing? with
  | none => exact (Reads.pure _).quiet
  | some existing =>
      show Quiet (if _ then _ else _)
      split
      · exact (Reads.pure _).quiet
      · exact (Reads.throw _).quiet

theorem quiet_queueUrl (name? : Option String) : Quiet (queueUrl desk caller name?) := by
  refine Reads.quiet ((Reads.ofExcept _).bind fun name => (Reads.lookupQueue _).bind fun found => ?_)
  cases found with
  | some queue => exact Reads.pure _
  | none => exact Reads.throw _

theorem quiet_listQueues (start? : Option String) : Quiet (listQueues desk caller start?) := by
  refine (Quiet.call (.list caller.account (start?.getD "")) ?_ ?_).bind
    fun _ => (Reads.pure _).quiet
  · intro s queues s' hlist
    cases hlist
    exact ⟨_, rfl⟩
  · exact fun _ => ⟨rfl, rfl⟩

theorem quiet_describeQueue (locator : String) (names : List String) :
    Quiet (describeQueue desk caller locator names) :=
  Reads.quiet <| (Reads.ofExcept _).bind fun _ =>
    (reads_ownedQueue desk caller locator).bind fun _ => Reads.pure _

theorem quiet_purge (id : QueueId) : Quiet (ofAction (Backend.purge id)) := by
  refine Quiet.call (.purge id) ?_ fun _ => ⟨rfl, rfl⟩
  intro s a s' hpurge
  exact ⟨_, by rw [execute, hpurge]; rfl⟩

theorem quiet_purgeQueue (locator : String) : Quiet (purgeQueue desk caller locator) :=
  (reads_ownedQueue ..).quiet.bind fun queue => quiet_purge queue.id

theorem quiet_deleteQueue (locator : String) : Quiet (deleteQueue desk caller locator) := by
  refine (reads_ownedQueue ..).quiet.bind fun queue => (quiet_purge queue.id).bind fun _ => ?_
  refine Quiet.call (.delete queue.id) ?_ fun _ => ⟨rfl, rfl⟩
  intro s a s' hdelete
  exact ⟨_, by rw [execute, hdelete]; rfl⟩

theorem quiet_deleteMessage (locator handle : String) :
    Quiet (deleteMessage desk caller locator handle) := by
  refine (reads_ownedQueue ..).quiet.bind fun queue => ?_
  refine Quiet.call (.deleteMessage queue.id handle) ?_ fun _ => ⟨rfl, rfl⟩
  intro s a s' hdelete
  exact ⟨_, by rw [execute, hdelete]; rfl⟩

end Quiet

/-! ## Sending -/

section Send

variable {desk : Desk} {limits : Limits} {caller : Caller} {occasion : Occasion} {queue : Queue}
  {locator : String} {b b' : Backend}

/-- A locator names a queue that the store holds under its own identity. -/
theorem ownedQueue_ok (hkeyed : b.store.Keyed)
    (h : (ownedQueue desk caller locator).runOn b = (.ok queue, b')) :
    b.store.lookup? queue.id = some queue ∧ b'.store = b.store := by
  refine ⟨?_, (reads_ownedQueue _ _ _ h).1⟩
  unfold ownedQueue at h
  split at h
  · cases h
  · next id hid =>
    split at h
    · cases h
    · obtain ⟨found, b₁, hlook, h⟩ := bind_ok h
      cases found with
      | none => cases h
      | some found =>
          cases h
          have hfound := Backend.lookupQueue_some (ofAction_ok hlook)
          rw [hkeyed.id_of_lookup? hfound]
          exact hfound

/-- A send puts its message into the queue, as it was prepared for the record of the queue, or does
    nothing at all. -/
theorem sendTo_path {m : OutboundMessage} {r : Except ServiceError Receipt}
    (hqueue : b.store.lookup? queue.id = some queue)
    (h : (sendTo limits caller occasion queue m).runOn b = (r, b')) :
    ∃ log, Path b.store log b'.store ∧
      Tells (r.toOption.map fun receipt =>
        { limits, sender := caller.account, now := occasion.clock 0, message := m, receipt
          : Accepted }).toList [] log := by
  rcases r with e | receipt
  · rw [failsClean_sendTo _ _ _ _ _ h]
    exact ⟨[], .start, .nothing rfl rfl⟩
  · obtain ⟨message, q, hprepare, rfl, hq, hs⟩ := sendTo_ok h
    -- the queue still has the record for which the message was prepared
    obtain rfl : q.queue = queue := by
      rw [lookup?, hq] at hqueue
      exact Option.some.inj hqueue
    have hexecute : b.store.execute (.send (occasion.clock 0) q.queue.id message) =
        .ok (.sent (some q.queue), b'.store) := by
      rw [execute, send, withQueue, hq, lookup?, hq, hs]
      rfl
    refine ⟨_, Path.single hexecute, .cons ⟨?_, rfl, rfl⟩ .nil, rfl⟩
    rw [OutboundMessage.prepare_id hprepare]
    exact hprepare

/-- Answers to other entries do not matter. -/
theorem acceptedEntries_cons_of_notMem {answers : List (String × Receipt)} {id : String}
    {receipt : Receipt} {entries : List BatchEntry} (h : id ∉ entries.map (·.id)) (k : Nat) :
    acceptedEntries limits caller occasion ((id, receipt) :: answers) k entries =
      acceptedEntries limits caller occasion answers k entries := by
  induction entries generalizing k with
  | nil => rfl
  | cons entry rest ih =>
      rw [List.map_cons, List.mem_cons, not_or] at h
      obtain ⟨hne, hrest⟩ := h
      have hlookup : ((id, receipt) :: answers).lookup entry.id = answers.lookup entry.id := by
        rw [List.lookup_cons, beq_false_of_ne (Ne.symm hne)]
      rw [acceptedEntries, acceptedEntries, hlookup, ih hrest]

/-- The first of the entries, then the others. -/
theorem sendEntries_split {entry : BatchEntry} {rest : List BatchEntry} {k : Nat}
    {outcome : BatchOutcome}
    (h : (sendEntries limits caller occasion queue k (entry :: rest)).run b = (outcome, b')) :
    ∃ sent b₁ others,
      (sendTo limits caller (occasion.from k) queue entry.message).runOn b = (sent, b₁) ∧
      (sendEntries limits caller occasion queue (k + 1) rest).run b₁ = (others, b') ∧
      outcome.successful = (sent.toOption.map (entry.id, ·)).toList ++ others.successful := by
  rcases hsend : (sendTo limits caller (occasion.from k) queue entry.message).runOn b with ⟨sent, b₁⟩
  rcases hrest : (sendEntries limits caller occasion queue (k + 1) rest).run b₁ with ⟨others, b₂⟩
  have hrun : ((sendTo limits caller (occasion.from k) queue entry.message).run).run b = (sent, b₁) :=
    hsend
  rw [sendEntries, StateT.run_bind, hrun] at h
  change (sendEntries limits caller occasion queue (k + 1) rest >>= _).run b₁ = _ at h
  rw [StateT.run_bind, hrest] at h
  refine ⟨sent, b₁, others, rfl, ?_⟩
  cases sent with
  | error e => cases h; exact ⟨hrest, rfl⟩
  | ok receipt => cases h; exact ⟨hrest, rfl⟩

/-- The entries of a batch put their messages into the queue as single sends do. -/
theorem sendEntries_path {entries : List BatchEntry} {k : Nat} {outcome : BatchOutcome}
    (hqueue : b.store.lookup? queue.id = some queue) (hids : (entries.map (·.id)).Nodup)
    (h : (sendEntries limits caller occasion queue k entries).run b = (outcome, b')) :
    (outcome.successful.map (·.1)).Sublist (entries.map (·.id)) ∧
      ∃ log, Path b.store log b'.store ∧
        Tells (acceptedEntries limits caller occasion outcome.successful k entries) [] log := by
  induction entries generalizing k b outcome with
  | nil =>
      cases h
      exact ⟨List.nil_sublist _, [], .start, .nothing rfl rfl⟩
  | cons entry rest ih =>
      rw [List.map_cons, List.nodup_cons] at hids
      obtain ⟨hnew, hids⟩ := hids
      obtain ⟨sent, b₁, others, hsend, hrest, hsuccessful⟩ := sendEntries_split h
      -- a send changes no record, so that the other entries find the queue as this one did
      have hqueue₁ : b₁.store.lookup? queue.id = some queue :=
        (sendTo_lookup? hsend queue.id).trans hqueue
      obtain ⟨log, path, htells⟩ := sendTo_path hqueue hsend
      obtain ⟨hsub, log', path', htells'⟩ := ih hqueue₁ hids hrest
      have hall := htells.append htells'
      rw [hsuccessful]
      cases sent with
      | error e =>
          -- the entry has no receipt, as only entries behind it have one
          have hnone : others.successful.lookup entry.id = none := by
            refine List.lookup_eq_none_iff.mpr fun answer hanswer => bne_iff_ne.mpr ?_
            rintro heq
            exact hnew (heq ▸ hsub.subset (List.mem_map_of_mem hanswer))
          refine ⟨hsub.cons _, log ++ log', path.trans path', ?_⟩
          show Tells (acceptedEntries _ _ _ others.successful k (entry :: rest)) [] _
          rw [acceptedEntries, hnone]
          exact hall
      | ok receipt =>
          refine ⟨hsub.cons_cons _, log ++ log', path.trans path', ?_⟩
          show Tells (acceptedEntries _ _ _ ((entry.id, receipt) :: others.successful) k
            (entry :: rest)) [] _
          rw [acceptedEntries, List.lookup_cons_self, acceptedEntries_cons_of_notMem hnew]
          exact hall

end Send

/-! ## Requests -/

section Requests

variable {desk : Desk} {caller : Caller} {occasion : Occasion} {locator : String} {b b' : Backend}

theorem sendMessage_path {m : OutboundMessage} {r : Except ServiceError Receipt}
    (hkeyed : b.store.Keyed)
    (h : (sendMessage desk caller occasion locator m).runOn b = (r, b')) :
    ∃ log, Path b.store log b'.store ∧
      Tells (r.toOption.map fun receipt =>
        { limits := desk.limits, sender := caller.account, now := occasion.clock 0, message := m,
          receipt : Accepted }).toList [] log := by
  unfold sendMessage at h
  rcases howned : (ownedQueue desk caller locator).runOn b with ⟨e | queue, b₁⟩
  · rw [runOn_bind_of_error howned] at h
    cases h
    exact ⟨[], (reads_ownedQueue _ _ _ howned).1 ▸ .start, .nothing rfl rfl⟩
  · rw [runOn_bind_of_ok howned] at h
    obtain ⟨hqueue, hs⟩ := ownedQueue_ok hkeyed howned
    rw [← hs] at hqueue ⊢
    exact sendTo_path hqueue h

theorem sendBatch_path {entries : List BatchEntry} {r : Except ServiceError BatchOutcome}
    (hkeyed : b.store.Keyed)
    (h : (sendBatch desk caller occasion locator entries).runOn b = (r, b')) :
    ∃ log, Path b.store log b'.store ∧
      Tells (r.toOption.elim [] fun outcome =>
        acceptedEntries desk.limits caller occasion outcome.successful 0 entries) [] log := by
  rcases r with e | outcome
  · rw [failsClean_sendBatch _ _ _ _ _ h]
    exact ⟨[], .start, .nothing rfl rfl⟩
  · unfold sendBatch at h
    obtain ⟨_, _, hverdict, h⟩ := bind_ok h
    obtain ⟨hcheck, rfl⟩ := ofExcept_ok hverdict
    obtain ⟨queue, b₁, howned, h⟩ := bind_ok h
    obtain ⟨hqueue, hs⟩ := ownedQueue_ok hkeyed howned
    rw [runOn_lift] at h
    obtain ⟨houtcome, hbackend⟩ := Prod.mk.inj h
    rw [← hs] at hqueue ⊢
    exact (sendEntries_path hqueue (checkBatch_nodup hcheck)
      (Prod.ext (Except.ok.inj houtcome) hbackend)).2

theorem receiveMessages_path {asked : Option Int} {r : Except ServiceError (List Message)}
    (h : (receiveMessages desk caller occasion locator asked).runOn b = (r, b')) :
    ∃ log, Path b.store log b'.store ∧
      Tells [] ((r.toOption.getD []).map (occasion.clock 0, ·)) log := by
  rcases r with e | given
  · rw [failsClean_receiveMessages _ _ _ _ _ h]
    exact ⟨[], .start, .nothing rfl rfl⟩
  · unfold receiveMessages at h
    obtain ⟨max, _, hverdict, h⟩ := bind_ok h
    obtain ⟨-, rfl⟩ := ofExcept_ok hverdict
    obtain ⟨queue, b₁, howned, h⟩ := bind_ok h
    obtain ⟨messages, b₂, hreceive, h⟩ := bind_ok h
    cases h
    rw [← (reads_ownedQueue _ _ _ howned).1]
    cases Backend.call_answer (ofAction_ok hreceive) with
    | @granted _ s' done =>
        have hexecute : b₁.store.execute
            (.receive (occasion.clock 0) occasion.handles queue.id max) = .ok (.given messages, s') := by
          rw [execute, done]
          rfl
        refine ⟨_, Path.single hexecute, .nil, ?_⟩
        rw [returned_singleton]
        show (messages.map _).map _ = (messages.map _).map _
        rw [List.map_map, List.map_map]
        rfl
    | missed _ answer => cases answer

end Requests

end Service

/-! ## All turns -/

namespace Turn

open Service

/-- A quiet turn tells of nothing. -/
theorem exists_path_of_quiet {α : Type} {op : Operation α} (hquiet : Quiet op) {g : α → Reply}
    {b b' : Backend} {r : Except ServiceError Reply} (h : (g <$> op).runOn b = (r, b')) :
    ∃ log, Path b.store log b'.store ∧ Tells [] [] log := by
  obtain ⟨log, path, hsends, hreturns⟩ := hquiet.map g h
  exact ⟨log, path, .nothing hsends hreturns⟩

/-- **Every turn is a path of the store,** and the log tells what the turn took and handed out. -/
theorem exists_path {turn : Turn} {b b' : Backend} (hkeyed : b.store.Keyed)
    (h : (turn.request.serve turn.desk turn.caller turn.occasion).runOn b = (turn.outcome, b')) :
    ∃ log, Path b.store log b'.store ∧ Tells turn.accepts turn.returns log := by
  obtain ⟨desk, caller, occasion, request, outcome⟩ := turn
  cases request with
  | createQueue name? attributes => exact exists_path_of_quiet (quiet_createQueue ..) h
  | queueUrl name? => exact exists_path_of_quiet (quiet_queueUrl ..) h
  | listQueues start? => exact exists_path_of_quiet (quiet_listQueues ..) h
  | describeQueue locator names => exact exists_path_of_quiet (quiet_describeQueue ..) h
  | purgeQueue locator => exact exists_path_of_quiet (quiet_purgeQueue ..) h
  | deleteQueue locator => exact exists_path_of_quiet (quiet_deleteQueue ..) h
  | deleteMessage locator handle => exact exists_path_of_quiet (quiet_deleteMessage ..) h
  | sendMessage locator message =>
      rcases hrun : (sendMessage desk caller occasion locator message).runOn b with ⟨r, b₁⟩
      rw [Request.serve, runOn_map, hrun] at h
      cases h
      have hpath := sendMessage_path hkeyed hrun
      cases r <;> exact hpath
  | sendBatch locator entries =>
      rcases hrun : (sendBatch desk caller occasion locator entries).runOn b with ⟨r, b₁⟩
      rw [Request.serve, runOn_map, hrun] at h
      cases h
      have hpath := sendBatch_path hkeyed hrun
      cases r <;> exact hpath
  | receiveMessages locator asked =>
      rcases hrun : (receiveMessages desk caller occasion locator asked).runOn b with ⟨r, b₁⟩
      rw [Request.serve, runOn_map, hrun] at h
      cases h
      have hpath := receiveMessages_path hrun
      cases r <;> exact hpath

end Turn

/-- **Every session is a run of the store.** -/
theorem Session.exists_run {b₀ b : Backend} {turns : List Turn} (session : Session b₀ turns b)
    (hempty : b₀.store = .empty) :
    ∃ log, Run log b.store ∧ Tells (accepted turns) (handedOut turns) log := by
  induction session with
  | start => exact ⟨[], hempty ▸ .start, .nothing rfl rfl⟩
  | @next turns b b' turn past served ih =>
      obtain ⟨log, run, htells⟩ := ih
      -- the requests need queues to be under their own identities, as every run leaves them
      have hkeyed : b.store.Keyed := Path.keyed run fun _ _ hq => nomatch hq
      obtain ⟨log', path, htells'⟩ := Turn.exists_path hkeyed served
      refine ⟨log ++ log', run.trans path, ?_⟩
      have hall := htells.append htells'
      rwa [accepted, handedOut, List.flatMap_append, List.flatMap_append, List.flatMap_singleton,
        List.flatMap_singleton]

end QueueService
