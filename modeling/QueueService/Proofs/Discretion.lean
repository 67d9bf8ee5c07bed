import Mathlib.Data.List.Forall2
import Mathlib.Data.Option.Basic
import QueueService.Proofs.Answer
import QueueService.Proofs.Isolation

/-!
# Discretion

What a failing backend says is for privileged callers, and for them only as the detail of a report. Two
runs of the same requests on two backends that differ only in what their failures say (`Backend.Alike`)
go side by side: call by call, step by step and request by request they come to the same, but for those
texts, and they leave the same store behind.

* `Request.discreet_serve` — each request comes to the same, but for the texts of failing backends.
* `serveInquiries_discreet` — in a run of requests, put to the service or sent over HTTP, no caller without
  privilege is told anything else, and neither is any other caller unless the service itself failed.
-/

namespace QueueService

open Operation

variable {α β : Type}

/-! ## Failures that differ in a text -/

/-- **Alike.** The same failure, or two failures of the backend, whatever they say. -/
inductive StoreError.Alike : StoreError → StoreError → Prop
  | same (e : StoreError) : Alike e e
  | backend (text text' : String) : Alike (.backend text) (.backend text')

/-- Both faults are misses, or failures that are alike. -/
inductive Fault.Alike : Fault → Fault → Prop
  | miss : Alike .miss .miss
  | failure {e e' : StoreError} (alike : e.Alike e') : Alike (.failure e) (.failure e')

/-- The plans have faults at the same places, and these are alike. -/
def FaultPlan.Alike (plan plan' : FaultPlan) : Prop :=
  ∀ c, List.Forall₂ (Option.Rel Fault.Alike) (plan c) (plan' c)

/-- **Alike.** The backends have the same store and faults that are alike. -/
structure Backend.Alike (b b' : Backend) : Prop where
  store : b'.store = b.store
  faults : b.faults.Alike b'.faults

/-- Failures of a request that are the same or go back to failures of the store that are alike. -/
inductive ServiceError.Alike : ServiceError → ServiceError → Prop
  | same (e : ServiceError) : Alike e e
  | store {e e' : StoreError} (alike : e.Alike e') : Alike (.store e) (.store e')

/-- Two answers that are related, or two failures that are. -/
inductive ExceptRel {ε : Type} (E : ε → ε → Prop) (R : α → α → Prop) :
    Except ε α → Except ε α → Prop
  | ok {a a' : α} (related : R a a') : ExceptRel E R (.ok a) (.ok a')
  | error {e e' : ε} (related : E e e') : ExceptRel E R (.error e) (.error e')

namespace FaultPlan.Alike

variable {plan plan' : FaultPlan}

theorem advance (h : plan.Alike plan') (c : Call) : (plan.advance c).Alike (plan'.advance c) := by
  intro c'
  unfold FaultPlan.advance
  split
  · exact List.forall₂_drop 1 (h c')
  · exact h c'

theorem next? (h : plan.Alike plan') (c : Call) :
    Option.Rel Fault.Alike (plan.next? c) (plan'.next? c) := by
  have hc := h c
  unfold FaultPlan.next?
  generalize plan c = faults at hc ⊢
  generalize plan' c = faults' at hc ⊢
  cases hc with
  | nil => exact .none
  | cons first rest => exact first

end FaultPlan.Alike

namespace ServiceError.Alike

variable {e e' : ServiceError}

/-- The text of a failing backend is no part of what is told. -/
theorem told (h : e.Alike e') : e'.code = e.code ∧ e'.message = e.message := by
  cases h with
  | same => exact ⟨rfl, rfl⟩
  | store alike => cases alike <;> exact ⟨rfl, rfl⟩

/-- Only a failure of the service itself can be told with another text. -/
theorem eq_of_status_ne (h : e.Alike e') (hne : e.code.status ≠ 500) : e' = e := by
  cases h with
  | same => rfl
  | store alike =>
      cases alike with
      | same => rfl
      | backend text text' => exact absurd rfl hne

end ServiceError.Alike

/-! ## Calls -/

/-- **A discreet call.** On backends that are alike it comes to the same, but for texts. -/
def Backend.Action.Discreet (act : Backend.Action α) : Prop :=
  ∀ ⦃b b'⦄, b.Alike b' →
    ExceptRel StoreError.Alike Eq (act.runOn b).1 (act.runOn b').1 ∧
      (act.runOn b).2.Alike (act.runOn b').2

/-- **Every call is discreet.** A fault is due in both runs or in neither. -/
theorem Backend.discreet_call (c : Call) (missed : Option α)
    (act : Store → Except StoreError (α × Store)) : Action.Discreet (call c missed act) := by
  intro b b' h
  have hadvance : (b.advance c).Alike (b'.advance c) := ⟨h.store, h.faults.advance c⟩
  have hreach : ExceptRel StoreError.Alike Eq (b.reach c act).1 (b'.reach c act).1 ∧
      (b.reach c act).2.Alike (b'.reach c act).2 := by
    unfold reach
    rw [h.store]
    cases act b.store with
    | error e => exact ⟨.error (.same e), hadvance⟩
    | ok r => exact ⟨.ok rfl, rfl, hadvance.faults⟩
  have hnext := h.faults.next? c
  rw [runOn_call, runOn_call]
  -- the plans have a fault due at this call in both runs, of one kind, or in neither
  generalize b.faults.next? c = fault at hnext ⊢
  generalize b'.faults.next? c = fault' at hnext ⊢
  cases hnext with
  | none => exact hreach
  | some hfault =>
      cases hfault with
      | failure alike => exact ⟨.error alike, hadvance⟩
      | miss =>
          cases missed with
          | none => exact hreach
          | some a => exact ⟨.ok rfl, hadvance⟩

/-! ## Operations -/

namespace Operation

/-- **Discreet operations.** On backends that are alike one comes to what the other comes to, up to a
    relation of their answers and but for texts in their failures, and the backends are alike again. -/
def Discreet (R : α → α → Prop) (op op' : Operation α) : Prop :=
  ∀ ⦃b b'⦄, b.Alike b' →
    ExceptRel ServiceError.Alike R (op.runOn b).1 (op'.runOn b').1 ∧
      (op.runOn b).2.Alike (op'.runOn b').2

variable {R : α → α → Prop} {S : β → β → Prop} {op op' : Operation α} {f f' : α → Operation β}

theorem Discreet.pure {a a' : α} (h : R a a') : Discreet R (Pure.pure a) (Pure.pure a') :=
  fun _ _ hb => ⟨.ok h, hb⟩

theorem Discreet.throw {e e' : ServiceError} (h : e.Alike e') :
    Discreet R (MonadExcept.throw e) (MonadExcept.throw e') :=
  fun _ _ hb => ⟨.error h, hb⟩

theorem Discreet.ofExcept (r : Except ServiceError α) : Discreet Eq (ofExcept r) (ofExcept r) := by
  intro b b' hb
  cases r with
  | ok a => exact ⟨.ok rfl, hb⟩
  | error e => exact ⟨.error (.same e), hb⟩

theorem Discreet.ofAction {act : Backend.Action α} (h : act.Discreet) :
    Discreet Eq (ofAction act) (ofAction act) := by
  intro b b' hb
  obtain ⟨hanswer, hafter⟩ := h hb
  rw [runOn_ofAction, runOn_ofAction]
  refine ⟨?_, hafter⟩
  generalize (act.runOn b).1 = r at hanswer ⊢
  generalize (act.runOn b').1 = r' at hanswer ⊢
  cases hanswer with
  | ok heq => exact .ok heq
  | error alike => exact .error (.store alike)

theorem Discreet.attempt {act : Backend.Action α} (h : act.Discreet) :
    Discreet (ExceptRel StoreError.Alike Eq) (attempt act) (attempt act) := by
  intro b b' hb
  obtain ⟨hanswer, hafter⟩ := h hb
  exact ⟨.ok hanswer, hafter⟩

theorem Discreet.bind (hop : Discreet R op op')
    (hf : ∀ ⦃a a'⦄, R a a' → Discreet S (f a) (f' a')) : Discreet S (op >>= f) (op' >>= f') := by
  intro b b' hb
  obtain ⟨hanswer, hafter⟩ := hop hb
  rcases hrun : op.runOn b with ⟨r, b₁⟩
  rcases hrun' : op'.runOn b' with ⟨r', b₁'⟩
  rw [hrun, hrun'] at hanswer hafter
  rw [runOn_bind, runOn_bind, hrun, hrun']
  cases hanswer with
  | ok related => exact hf related hafter
  | error alike => exact ⟨.error alike, hafter⟩

/-- A step that answers the same in both runs, and what follows on its answer. -/
theorem Discreet.andThen (hop : Discreet Eq op op') (hf : ∀ a, Discreet S (f a) (f' a)) :
    Discreet S (op >>= f) (op' >>= f') := by
  apply hop.bind
  rintro a _ rfl
  exact hf a

theorem Discreet.map {g : α → β} (hop : Discreet R op op') (hg : ∀ ⦃a a'⦄, R a a' → S (g a) (g a')) :
    Discreet S (g <$> op) (g <$> op') := by
  intro b b' hb
  obtain ⟨hanswer, hafter⟩ := hop hb
  rw [runOn_map, runOn_map]
  refine ⟨?_, hafter⟩
  generalize (op.runOn b).1 = r at hanswer ⊢
  generalize (op'.runOn b').1 = r' at hanswer ⊢
  cases hanswer with
  | ok related => exact .ok (hg related)
  | error alike => exact .error alike

end Operation

/-! ## What is told of a batch -/

/-- What a caller is told of an entry of a batch that failed. -/
structure EntryReport where
  id : String
  code : ErrorCode
  message : String
  senderFault : Bool

/-- The report of an entry. -/
def EntryReport.ofFailed (entry : String × ServiceError) : EntryReport :=
  { id := entry.1, code := entry.2.code, message := entry.2.message,
    senderFault := entry.2.code.isSenderFault }

/-- The element of a report. -/
def EntryReport.toXml (report : EntryReport) : Xml :=
  .node "BatchResultErrorEntry"
    [.leaf "Id" report.id,
      .node "SenderFault" [.verbatim (toString report.senderFault)],
      .node "Code" [.verbatim report.code.wire],
      .leaf "Message" report.message]

/-- **Alike.** The same entries were sent, with the same receipts, and of the others the same is told. -/
structure BatchOutcome.Alike (outcome outcome' : BatchOutcome) : Prop where
  successful : outcome'.successful = outcome.successful
  failed : outcome'.failed.map EntryReport.ofFailed = outcome.failed.map EntryReport.ofFailed

/-- **Alike.** The same reply, or two outcomes of a batch that are alike. -/
inductive Reply.Alike : Reply → Reply → Prop
  | same (reply : Reply) : Alike reply reply
  | batch {outcome outcome' : BatchOutcome} (alike : outcome.Alike outcome') :
      Alike (.batch outcome) (.batch outcome')

/-- The document of a batch has no more of its failures than their reports. -/
theorem BatchOutcome.Alike.toXml {outcome outcome' : BatchOutcome} (h : outcome.Alike outcome') :
    outcome'.toXml = outcome.toXml := by
  have hfailed : ∀ {f : String × ServiceError → Xml}, (∀ x, f x = (EntryReport.ofFailed x).toXml) →
      outcome'.failed.map f = outcome.failed.map f := by
    intro f hf
    have hcomp : f = EntryReport.toXml ∘ EntryReport.ofFailed := funext hf
    rw [hcomp, ← List.map_map, ← List.map_map, h.failed]
  rw [BatchOutcome.toXml, BatchOutcome.toXml, h.successful, List.append_cancel_left_eq]
  exact hfailed fun _ => rfl

theorem Reply.Alike.toXml {reply reply' : Reply} (h : reply.Alike reply') (action requestId : String) :
    reply'.toXml action requestId = reply.toXml action requestId := by
  cases h with
  | same => rfl
  | batch alike => rw [Reply.toXml, Reply.toXml, Reply.content, Reply.content, alike.toXml]

/-! ## The operations of the service -/

namespace Service

variable (desk : Desk) (limits : Limits) (caller : Caller) (occasion : Occasion)

/-- A look-up, and what follows on what it finds. -/
theorem discreet_lookupQueue_bind (id : QueueId) {R : β → β → Prop} {f : Option Queue → Operation β}
    (hf : ∀ found, Discreet R (f found) (f found)) :
    Discreet R (ofAction (Backend.lookupQueue id) >>= f) (ofAction (Backend.lookupQueue id) >>= f) :=
  (Discreet.ofAction (Backend.discreet_call ..)).andThen hf

theorem discreet_redrivePolicy (document : String) :
    Discreet Eq (redrivePolicy limits caller document) (redrivePolicy limits caller document) := by
  apply (Discreet.ofExcept _).andThen
  intro policy
  apply discreet_lookupQueue_bind
  intro found
  cases found with
  | some _ => exact .pure rfl
  | none => exact .throw (.same _)

theorem discreet_setAttribute (attributes : QueueAttributes) (name value : String) :
    Discreet Eq (setAttribute limits caller attributes name value)
      (setAttribute limits caller attributes name value) := by
  apply (Discreet.ofExcept _).andThen
  intro a
  split
  · exact (Discreet.ofExcept _).andThen fun _ => .pure rfl
  · split
    · exact (Discreet.ofExcept _).andThen fun _ => .pure rfl
    · split
      · exact (discreet_redrivePolicy ..).andThen fun _ => .pure rfl
      · exact .pure rfl

theorem discreet_setAttributes (attributes : QueueAttributes) (supplied : List (String × String)) :
    Discreet Eq (setAttributes limits caller attributes supplied)
      (setAttributes limits caller attributes supplied) := by
  induction supplied generalizing attributes with
  | nil => exact .pure rfl
  | cons first rest ih => exact (discreet_setAttribute ..).andThen fun attributes => ih attributes

/-- The race of a creation takes the same turns in both runs, as no turn depends on a text of the backend. -/
theorem discreet_existingOrCreate (now : Int) (id : QueueId) (attributes : QueueAttributes) :
    Discreet Eq (existingOrCreate now id attributes) (existingOrCreate now id attributes) := by
  apply discreet_lookupQueue_bind
  intro found
  cases found with
  | some queue => exact .pure rfl
  | none =>
      apply (Discreet.attempt (Backend.discreet_call ..)).bind
      intro made made' hmade
      cases hmade with
      | ok => exact .pure rfl
      | @error e _ alike =>
          cases alike with
          | backend text text' => exact .throw (.store (.backend text text'))
          | same =>
              cases e with
              | queueExists name =>
                  -- the race was lost in both runs, and both look up the queue that came first
                  exact Discreet.ofAction (Backend.discreet_call ..)
              | queueNotFound | handleNotFound | backend => exact .throw (.same _)

theorem discreet_createQueue (name? : Option String) (supplied : List (String × String)) :
    Discreet Eq (createQueue desk caller occasion name? supplied)
      (createQueue desk caller occasion name? supplied) := by
  apply (Discreet.ofExcept _).andThen
  intro name
  apply (discreet_setAttributes ..).andThen
  intro attributes
  apply (discreet_existingOrCreate ..).andThen
  intro existing?
  cases existing? with
  | none => exact .pure rfl
  | some existing =>
      show Discreet Eq (if _ then _ else _) (if _ then _ else _)
      split
      · exact .pure rfl
      · exact .throw (.same _)

theorem discreet_queueUrl (name? : Option String) :
    Discreet Eq (queueUrl desk caller name?) (queueUrl desk caller name?) := by
  apply (Discreet.ofExcept _).andThen
  intro name
  apply discreet_lookupQueue_bind
  intro found
  cases found with
  | some queue => exact .pure rfl
  | none => exact .throw (.same _)

theorem discreet_listQueues (start? : Option String) :
    Discreet Eq (listQueues desk caller start?) (listQueues desk caller start?) :=
  (Discreet.ofAction (Backend.discreet_call ..)).andThen fun _ => .pure rfl

theorem discreet_ownedQueue (locator : String) :
    Discreet Eq (ownedQueue desk caller locator) (ownedQueue desk caller locator) := by
  unfold ownedQueue
  split
  · exact .throw (.same _)
  · split
    · exact .throw (.same _)
    · apply discreet_lookupQueue_bind
      intro found
      cases found with
      | some queue => exact .pure rfl
      | none => exact .throw (.same _)

theorem discreet_describeQueue (locator : String) (names : List String) :
    Discreet Eq (describeQueue desk caller locator names) (describeQueue desk caller locator names) :=
  (Discreet.ofExcept _).andThen fun _ => (discreet_ownedQueue ..).andThen fun _ => .pure rfl

theorem discreet_purgeQueue (locator : String) :
    Discreet Eq (purgeQueue desk caller locator) (purgeQueue desk caller locator) :=
  (discreet_ownedQueue ..).andThen fun _ => .ofAction (Backend.discreet_call ..)

theorem discreet_deleteQueue (locator : String) :
    Discreet Eq (deleteQueue desk caller locator) (deleteQueue desk caller locator) := by
  apply (discreet_ownedQueue ..).andThen
  intro queue
  exact (Discreet.ofAction (Backend.discreet_call ..)).andThen fun _ =>
    .ofAction (Backend.discreet_call ..)

theorem discreet_sendTo (queue : Queue) (m : OutboundMessage) :
    Discreet Eq (sendTo limits caller occasion queue m) (sendTo limits caller occasion queue m) := by
  apply (Discreet.ofExcept _).andThen
  intro message
  exact (Discreet.ofAction (Backend.discreet_call ..)).andThen fun _ => .pure rfl

theorem discreet_sendMessage (locator : String) (m : OutboundMessage) :
    Discreet Eq (sendMessage desk caller occasion locator m)
      (sendMessage desk caller occasion locator m) :=
  (discreet_ownedQueue ..).andThen fun queue => discreet_sendTo desk.limits caller occasion queue m

/-- One entry more in front. -/
theorem outcomeCons_alike (id : String) {sent sent' : Except ServiceError Receipt}
    {others others' : BatchOutcome} (hsent : ExceptRel ServiceError.Alike Eq sent sent')
    (hothers : others.Alike others') :
    (outcomeCons id sent others).Alike (outcomeCons id sent' others') := by
  obtain ⟨hsuccessful, hfailed⟩ := hothers
  cases hsent with
  | ok heq =>
      subst heq
      refine ⟨?_, hfailed⟩
      simp only [outcomeCons, hsuccessful]
  | error alike =>
      obtain ⟨hcode, hmessage⟩ := alike.told
      refine ⟨hsuccessful, ?_⟩
      simp only [outcomeCons, List.map_cons, hfailed, EntryReport.ofFailed, hcode, hmessage]

/-- The entries of a batch fare alike, one after the other. -/
theorem alike_sendEntries (queue : Queue) (entries : List BatchEntry) (k : Nat) {b b' : Backend}
    (h : b.Alike b') :
    ((sendEntries limits caller occasion queue k entries).run b).1.Alike
        ((sendEntries limits caller occasion queue k entries).run b').1 ∧
      ((sendEntries limits caller occasion queue k entries).run b).2.Alike
        ((sendEntries limits caller occasion queue k entries).run b').2 := by
  induction entries generalizing k b b' with
  | nil => exact ⟨⟨rfl, rfl⟩, h⟩
  | cons entry rest ih =>
      obtain ⟨hsent, hafter⟩ := discreet_sendTo limits caller (occasion.from k) queue entry.message h
      obtain ⟨hothers, hlast⟩ := ih (k + 1) hafter
      rw [sendEntries_run_cons limits caller occasion rfl rfl,
        sendEntries_run_cons limits caller occasion rfl rfl]
      exact ⟨outcomeCons_alike entry.id hsent hothers, hlast⟩

theorem discreet_sendBatch (locator : String) (entries : List BatchEntry) :
    Discreet BatchOutcome.Alike (sendBatch desk caller occasion locator entries)
      (sendBatch desk caller occasion locator entries) := by
  apply (Discreet.ofExcept _).andThen
  intro _
  apply (discreet_ownedQueue ..).andThen
  -- failures of entries are part of the outcome, so that the batch as a whole does not fail
  intro queue b b' hb
  obtain ⟨houtcome, hafter⟩ := alike_sendEntries desk.limits caller occasion queue entries 0 hb
  exact ⟨.ok houtcome, hafter⟩

theorem discreet_receiveMessages (locator : String) (asked : Option Int) :
    Discreet Eq (receiveMessages desk caller occasion locator asked)
      (receiveMessages desk caller occasion locator asked) := by
  apply (Discreet.ofExcept _).andThen
  intro max
  apply (discreet_ownedQueue ..).andThen
  intro queue
  exact (Discreet.ofAction (Backend.discreet_call ..)).andThen fun _ => .pure rfl

theorem discreet_deleteMessage (locator handle : String) :
    Discreet Eq (deleteMessage desk caller locator handle) (deleteMessage desk caller locator handle) :=
  (discreet_ownedQueue ..).andThen fun _ => .ofAction (Backend.discreet_call ..)

end Service

open Service in
/-- **Each request is discreet.** On backends that are alike it is answered alike or fails alike. -/
theorem Request.discreet_serve (desk : Desk) (caller : Caller) (occasion : Occasion)
    (request : Request) :
    Discreet Reply.Alike (request.serve desk caller occasion) (request.serve desk caller occasion) := by
  have hsame : ∀ {α : Type} {op : Operation α} (g : α → Reply), Discreet Eq op op →
      Discreet Reply.Alike (g <$> op) (g <$> op) := by
    intro α op g hop
    apply hop.map
    rintro a _ rfl
    exact .same _
  cases request with
  | createQueue name? attributes => exact hsame _ (discreet_createQueue ..)
  | queueUrl name? => exact hsame _ (discreet_queueUrl ..)
  | listQueues start? => exact hsame _ (discreet_listQueues ..)
  | describeQueue locator names => exact hsame _ (discreet_describeQueue ..)
  | purgeQueue locator => exact hsame _ (discreet_purgeQueue ..)
  | deleteQueue locator => exact hsame _ (discreet_deleteQueue ..)
  | sendMessage locator message => exact hsame _ (discreet_sendMessage ..)
  | sendBatch locator entries => exact (discreet_sendBatch ..).map fun _ _ alike => .batch alike
  | receiveMessages locator asked => exact hsame _ (discreet_receiveMessages ..)
  | deleteMessage locator handle => exact hsame _ (discreet_deleteMessage ..)

/-! ## Inquiries -/

/-- How a request reaches the service. -/
inductive Approach
  /-- It is put to the service itself. -/
  | direct (request : Request)
  /-- It is sent over HTTP. -/
  | exchange (x : Http.Exchange)

/-- A request with the givens of its call. -/
structure Inquiry where
  desk : Desk
  caller : Caller
  occasion : Occasion
  requestId : String
  approach : Approach

/-- What a caller is told. Of a batch it is told what was sent, and of the other entries their reports; of
    a failure its report, with the status and the document that go with it. -/
inductive Told
  | reply (reply : Reply)
  | batch (successful : List (String × Receipt)) (failed : List EntryReport)
  | failure (report : ErrorReport) (status : Nat) (document : String)
  | answer (answer : Http.Answer)

namespace Told

/-- What a caller is told of a request that was put to the service itself. -/
def ofResult (caller : Caller) (requestId : String) : Except ServiceError Reply → Told
  | .ok (.batch outcome) => batch outcome.successful (outcome.failed.map EntryReport.ofFailed)
  | .ok other => reply other
  | .error e =>
    let report := ErrorReport.ofFailure (.ofError e) caller.privileged requestId
    failure report report.code.status report.toXml.document

/-- The status under which something is told. -/
def status : Told → Nat
  | reply _ => 200
  | batch _ _ => 200
  | failure _ status _ => status
  | answer a => a.status

/-- **Discreet.** The same is told, unless the caller has privilege and the service itself failed; in that
    case at least the status is the same. -/
def Discreet (caller : Caller) (t t' : Told) : Prop :=
  t'.status = t.status ∧ (caller.privileged = false ∨ t.status ≠ 500 → t' = t)

end Told

/-- Have the service answer an inquiry. -/
def Inquiry.serve (inquiry : Inquiry) (b : Backend) : Told × Backend :=
  match inquiry.approach with
  | .direct request =>
    let (r, b') := (request.serve inquiry.desk inquiry.caller inquiry.occasion).runOn b
    (.ofResult inquiry.caller inquiry.requestId r, b')
  | .exchange x =>
    let (a, b') := (x.serve inquiry.desk inquiry.caller inquiry.occasion inquiry.requestId).run b
    (.answer a, b')

/-- Answer inquiries one after the other, and note what each caller was told. -/
def serveInquiries (b : Backend) : List Inquiry → List (Inquiry × Told) × Backend
  | [] => ([], b)
  | inquiry :: rest =>
    let (told, b₁) := inquiry.serve b
    let (others, b') := serveInquiries b₁ rest
    ((inquiry, told) :: others, b')

section Telling

variable {caller : Caller} {requestId : String} {b b' : Backend}

/-- A report shows of a failure what is the same in both, and the detail only to callers with privilege. -/
theorem ServiceError.Alike.report {e e' : ServiceError} (h : e.Alike e')
    (hquiet : caller.privileged = false ∨ e.code.status ≠ 500) :
    ErrorReport.ofFailure (.ofError e') caller.privileged requestId =
      ErrorReport.ofFailure (.ofError e) caller.privileged requestId := by
  rcases hquiet with hcaller | hstatus
  · -- the report has the code and the message, and no detail
    obtain ⟨hcode, hmessage⟩ := h.told
    simp [ErrorReport.ofFailure, Failure.ofError, hcaller, hcode, hmessage]
  · rw [h.eq_of_status_ne hstatus]

theorem discreet_ofResult {r r' : Except ServiceError Reply}
    (h : ExceptRel ServiceError.Alike Reply.Alike r r') :
    Told.Discreet caller (.ofResult caller requestId r) (.ofResult caller requestId r') := by
  cases h with
  | ok alike =>
      cases alike with
      | same => exact ⟨rfl, fun _ => rfl⟩
      | batch alike =>
          refine ⟨rfl, fun _ => ?_⟩
          simp only [Told.ofResult, alike.successful, alike.failed]
  | error alike =>
      refine ⟨congrArg ErrorCode.status alike.told.1, ?_⟩
      intro hquiet
      simp only [Told.ofResult, alike.report hquiet]

/-- Exchanges that fail alike, or are served with replies that are alike. -/
inductive Http.Outcome.Alike : Http.Outcome → Http.Outcome → Prop
  | failed {e e' : ServiceError} (alike : e.Alike e') : Alike (.failed e) (.failed e')
  | served (request : Request) {reply reply' : Reply} (alike : reply.Alike reply') :
      Alike (.served request reply) (.served request reply')

/-- The answers to exchanges that come to outcomes that are alike. -/
theorem Http.Outcome.Alike.answer {outcome outcome' : Http.Outcome} (h : outcome.Alike outcome') :
    Told.Discreet caller (.answer (outcome.answer caller requestId))
      (.answer (outcome'.answer caller requestId)) := by
  cases h with
  | failed alike =>
      have hstatus := congrArg ErrorCode.status alike.told.1
      refine ⟨hstatus, ?_⟩
      intro hquiet
      simp only [Http.Outcome.answer, Http.Outcome.root, Http.Outcome.status, alike.report hquiet,
        hstatus]
  | served request alike =>
      refine ⟨rfl, fun _ => ?_⟩
      simp only [Http.Outcome.answer, Http.Outcome.root, Http.Outcome.status, alike.toXml]

/-- An exchange comes to outcomes that are alike. What is asked for is read before the backend is called. -/
theorem Http.Exchange.alike_outcome (x : Http.Exchange) (desk : Desk) (occasion : Occasion)
    (h : b.Alike b') :
    ((x.outcome desk caller occasion).run b).1.Alike ((x.outcome desk caller occasion).run b').1 ∧
      ((x.outcome desk caller occasion).run b).2.Alike ((x.outcome desk caller occasion).run b').2 := by
  cases hrequest : x.request with
  | error e =>
      unfold outcome
      rw [hrequest]
      exact ⟨.failed (.same e), h⟩
  | ok request =>
      obtain ⟨hanswer, hafter⟩ := request.discreet_serve desk caller occasion h
      rw [outcome_of_request hrequest, outcome_of_request hrequest]
      generalize (request.serve desk caller occasion).runOn b = run at hanswer hafter ⊢
      generalize (request.serve desk caller occasion).runOn b' = run' at hanswer hafter ⊢
      obtain ⟨r, b₁⟩ := run
      obtain ⟨r', b₁'⟩ := run'
      cases hanswer with
      | ok alike => exact ⟨.served request alike, hafter⟩
      | error alike => exact ⟨.failed alike, hafter⟩

end Telling

/-- What one inquirer is told, and the backend behind it. -/
theorem Inquiry.discreet_serve (inquiry : Inquiry) {b b' : Backend} (h : b.Alike b') :
    Told.Discreet inquiry.caller (inquiry.serve b).1 (inquiry.serve b').1 ∧
      (inquiry.serve b).2.Alike (inquiry.serve b').2 := by
  obtain ⟨desk, caller, occasion, requestId, approach⟩ := inquiry
  cases approach with
  | direct request =>
      obtain ⟨hanswer, hafter⟩ := request.discreet_serve desk caller occasion h
      exact ⟨discreet_ofResult hanswer, hafter⟩
  | exchange x =>
      obtain ⟨hanswer, hafter⟩ := x.alike_outcome desk occasion h
      simp only [Inquiry.serve, x.serve_eq_outcome]
      exact ⟨hanswer.answer, hafter⟩

/-- **Discretion.** Two runs of the same inquiries, on backends with one store and with faults that differ
    in what failures of the backend say, and in nothing else. In both runs every caller without privilege
    is told the same, and so is every other caller unless the service itself failed, as no batch does that
    is told of entry by entry. Both runs leave one store behind. -/
theorem serveInquiries_discreet {b b' : Backend} (h : b.Alike b') (inquiries : List Inquiry) :
    List.Forall₂ (fun x x' => x'.1 = x.1 ∧ Told.Discreet x.1.caller x.2 x'.2)
        (serveInquiries b inquiries).1 (serveInquiries b' inquiries).1 ∧
      (serveInquiries b' inquiries).2.store = (serveInquiries b inquiries).2.store := by
  -- over all backends that are alike, as each inquiry leaves others behind
  induction inquiries generalizing b b' with
  | nil => exact ⟨.nil, h.store⟩
  | cons inquiry rest ih =>
      obtain ⟨htold, hafter⟩ := inquiry.discreet_serve h
      obtain ⟨hothers, hstore⟩ := ih hafter
      exact ⟨.cons ⟨rfl, htold⟩ hothers, hstore⟩

/-- A backend whose first look-up and whose second send fail, with the same words. -/
def failing (text : String) : Backend :=
  { store := Sample.store "q" []
    faults := fun
      | .lookupQueue => [some (.failure (.backend text))]
      | .sendMessage => [none, some (.failure (.backend text))]
      | _ => [] }

theorem alike_failing (text text' : String) : (failing text).Alike (failing text') := by
  refine ⟨rfl, ?_⟩
  intro c
  have hfault : Option.Rel Fault.Alike (some (.failure (.backend text)))
      (some (.failure (.backend text'))) := .some (.failure (.backend text text'))
  cases c with
  | lookupQueue => exact .cons hfault .nil
  | sendMessage => exact .cons .none (.cons hfault .nil)
  | createQueue | listQueues | deleteQueue | receiveMessages | deleteMessage | purge => exact .nil

/-- A caller without privilege asks for the address of a queue, and one with privilege sends a batch. -/
def inquiringTwice : List Inquiry :=
  let message : OutboundMessage := ⟨some "a", none, []⟩
  [{ desk := Sample.desk, caller := Sample.caller, occasion := Sample.occasion, requestId := "r"
     approach := .direct (.queueUrl (some "q")) },
    { desk := Sample.desk, caller := { Sample.caller with privileged := true }
      occasion := Sample.occasion, requestId := "r"
      approach := .direct (.sendBatch (Sample.locator "q") [⟨"x", message⟩, ⟨"y", message⟩]) }]

/-- Neither the failed look-up nor the failed entry of the batch is told with the words of the backend. -/
theorem serveInquiries_discreet_failing :
    (serveInquiries (failing "disk") inquiringTwice).1.map (·.2.status) = [500, 200] ∧
      (serveInquiries (failing "net") inquiringTwice).1 =
        (serveInquiries (failing "disk") inquiringTwice).1 := by
  obtain ⟨hall, -⟩ := serveInquiries_discreet (alike_failing "disk" "net") inquiringTwice
  have hquiet : ∀ x ∈ (serveInquiries (failing "disk") inquiringTwice).1,
      x.1.caller.privileged = false ∨ x.2.status ≠ 500 := by
    refine List.forall_mem_cons.mpr ⟨Or.inl rfl, List.forall_mem_singleton.mpr (Or.inr ?_)⟩
    show (200 : Nat) ≠ 500
    decide
  refine ⟨rfl, ?_⟩
  have hsame : List.Forall₂ (· = ·) (serveInquiries (failing "disk") inquiringTwice).1
      (serveInquiries (failing "net") inquiringTwice).1 := by
    refine ((List.forall₂_and_left _ _).mpr ⟨hquiet, hall⟩).imp ?_
    rintro x x' ⟨hx, hinquiry, htold⟩
    exact Prod.ext hinquiry.symm (htold.2 hx).symm
  rw [List.forall₂_eq_eq_eq] at hsame
  exact hsame.symm

end QueueService
