import QueueService.Http.Basic
import QueueService.Proofs.FormText
import QueueService.Proofs.Presentation

/-!
# Documents of exchanges

An exchange comes to a failure or to the reply to a request, and is answered with the document of it. In
every session that was well given, the document is read as the one element that was meant, with tags of the
vocabulary only, whatever texts the callers sent. It consists of characters that XML knows exactly if the
texts do that the outcome quotes unchecked.

* `Session.answered_document` — the statement for all exchanges.
-/

namespace QueueService

open Operation Service Xml

namespace Http

/-! ## Outcomes -/

/-- What an exchange comes to. -/
inductive Outcome
  | failed (e : ServiceError)
  | served (request : Request) (reply : Reply)

namespace Outcome

/-- The root of the document that tells of an outcome. -/
def root (caller : Caller) (requestId : String) : Outcome → Xml
  | failed e => (ErrorReport.ofFailure (.ofError e) caller.privileged requestId).toXml
  | served request reply => reply.toXml request.action requestId

/-- The texts that the document quotes without a check. -/
def echoes (caller : Caller) : Outcome → List String
  | failed e => e.echoes ++ if caller.privileged then e.detail?.toList else []
  | served _ reply => reply.echoes

/-- The status of the answer. -/
def status : Outcome → Nat
  | failed e => e.code.status
  | served _ _ => 200

/-- The answer. -/
def answer (caller : Caller) (requestId : String) (outcome : Outcome) : Answer :=
  .xml outcome.status (outcome.root caller requestId)

/-- **Presentable.** A reply, if there is one, is presentable. -/
def Presentable : Outcome → Prop
  | failed _ => True
  | served _ reply => reply.Presentable

section

variable {outcome : Outcome} {requestId : String}

theorem root_over (h : outcome.Presentable) (caller : Caller) (hid : Bare requestId) :
    (outcome.root caller requestId).Over .answers := by
  cases outcome with
  | failed e => exact ErrorReport.toXml_over _ hid
  | served request reply => exact Reply.toXml_over h.writable request hid

/-- What the outcome quotes decides whether all texts are legal. -/
theorem legal_texts_iff (h : outcome.Presentable) (caller : Caller) (requestId : String) :
    (∀ s ∈ (outcome.root caller requestId).texts, Legal s) ↔
      ∀ s ∈ outcome.echoes caller, Legal s := by
  cases outcome with
  | failed e =>
      have hdetail : (∀ detail ∈ if caller.privileged then e.detail? else none, Legal detail) ↔
          ∀ s ∈ if caller.privileged then e.detail?.toList else [], Legal s := by
        split
        · simp only [Option.mem_toList, Option.mem_def]
        · simp
      rw [root, ErrorReport.legal_texts_iff, echoes, List.forall_mem_append]
      exact and_congr e.quotes hdetail
  | served request reply => exact Reply.legal_texts_iff h _ _

/-- **The document of an outcome** is read as it was meant, and is well formed if what it quotes is legal. -/
theorem read?_answer (h : outcome.Presentable) (caller : Caller) (hid : Bare requestId) :
    (∃ node, read? (outcome.answer caller requestId).body.toList = some node ∧
        (outcome.root caller requestId).nodes = [node] ∧ Node.tagsAll [node] ⊆ Vocabulary.answers) ∧
      (WellFormed (outcome.answer caller requestId).body ↔
        ∀ text ∈ outcome.echoes caller, Legal text) := by
  have hover := root_over h caller hid
  rw [← legal_texts_iff h caller requestId]
  -- either root is an element, and only elements are documents
  obtain ⟨tag, attributes, content, hroot⟩ : ∃ tag attributes content,
      outcome.root caller requestId = .element tag attributes content := by
    cases outcome <;> exact ⟨_, _, _, rfl⟩
  have hbody : (outcome.answer caller requestId).body =
      (Xml.element tag attributes content).document := by
    rw [← hroot]
    rfl
  rw [hbody, hroot]
  rw [hroot] at hover
  refine ⟨⟨_, read?_document Vocabulary.sound_answers hover, rfl, ?_⟩,
    wellFormed_document_iff Vocabulary.sound_answers hover⟩
  exact hover.tags_subset

end

end Outcome

namespace Exchange

/-- Have the service come to an outcome. -/
def outcome (desk : Desk) (caller : Caller) (occasion : Occasion) (x : Exchange) :
    StateM Backend Outcome := do
  match x.request with
  | .error e => return .failed e
  | .ok request =>
    match ← (request.serve desk caller occasion).run with
    | .error e => return .failed e
    | .ok reply => return .served request reply

section

variable {desk : Desk} {caller : Caller} {occasion : Occasion} {x : Exchange} {request : Request}
  {reply : Reply} {b b' : Backend}

/-- What is asked for by the names and values of the query string and of the body. -/
theorem request_of_spells {qs bs : List (String × String)}
    (hquery : Form.Spells (Utf8.encode x.target.query) qs) (hbody : Form.Spells x.body bs) :
    x.request = Params.request { values := Dict.ofList (qs ++ bs), path := x.target.path } := by
  unfold Exchange.request
  rw [Params.read_of_spells hquery hbody]
  rfl

/-- What follows an operation goes on from its result and the backend that it leaves. -/
theorem run_run_bind {α β : Type} (op : Operation α)
    (next : Except ServiceError α → StateM Backend β) (b : Backend) :
    (op.run >>= next : StateM Backend β).run b = (next (op.runOn b).1).run (op.runOn b).2 := rfl

/-- An exchange that asks for a request comes to what the request comes to. -/
theorem outcome_of_request (hrequest : x.request = .ok request) (desk : Desk) (caller : Caller)
    (occasion : Occasion) (b : Backend) :
    (x.outcome desk caller occasion).run b =
      match (request.serve desk caller occasion).runOn b with
      | (.error e, b') => (.failed e, b')
      | (.ok reply, b') => (.served request reply, b') := by
  unfold outcome
  rw [hrequest]
  show ((request.serve desk caller occasion).run >>= _ : StateM Backend Outcome).run b = _
  rw [run_run_bind]
  rcases (request.serve desk caller occasion).runOn b with ⟨e | reply, b'⟩ <;> rfl

/-- Behind a reply there is a request that was served with it. -/
theorem served_of_outcome (h : (x.outcome desk caller occasion).run b = (.served request reply, b')) :
    (request.serve desk caller occasion).runOn b = (.ok reply, b') := by
  cases hrequest : x.request with
  | error e =>
      unfold outcome at h
      rw [hrequest] at h
      cases h
  | ok request' =>
      rw [outcome_of_request hrequest desk caller occasion b] at h
      split at h
      · cases h
      · next hserve =>
        cases h
        exact hserve

/-- An exchange is answered with its outcome. -/
theorem serve_eq_outcome (x : Exchange) (desk : Desk) (caller : Caller) (occasion : Occasion)
    (requestId : String) (b : Backend) :
    (x.serve desk caller occasion requestId).run b =
      (((x.outcome desk caller occasion).run b).1.answer caller requestId,
        ((x.outcome desk caller occasion).run b).2) := by
  unfold serve
  cases hrequest : x.request with
  | error e =>
      unfold outcome
      rw [hrequest]
      rfl
  | ok request =>
      rw [outcome_of_request hrequest desk caller occasion b]
      show ((request.serve desk caller occasion).run >>= _ : StateM Backend Answer).run b = _
      rw [run_run_bind]
      rcases (request.serve desk caller occasion).runOn b with ⟨e | reply, b'⟩ <;> rfl

end

end Exchange

end Http

/-! ## All exchanges -/

/-- **Documents of exchanges.** In every session that was well given, every exchange is answered with the
    document of its outcome. Whatever texts the callers sent, the document is read as the one element that
    was meant, and its tags are those of the vocabulary. It is well formed exactly if all texts that the
    outcome quotes without a check consist of characters that XML knows. -/
theorem Session.answered_document {b₀ b : Backend} {turns : List Turn} {desk : Desk} {caller : Caller}
    {occasion : Occasion} {requestId : String} (session : Session b₀ turns b)
    (hempty : b₀.store = .empty) (hturns : ∀ turn ∈ turns, turn.WellGiven)
    (hgiven : WellGiven desk caller occasion) (hid : Bare requestId) (x : Http.Exchange) :
    ∃ outcome b', (x.outcome desk caller occasion).run b = (outcome, b') ∧
      (x.serve desk caller occasion requestId).run b = (outcome.answer caller requestId, b') ∧
      (∃ node, read? (outcome.answer caller requestId).body.toList = some node ∧
        (outcome.root caller requestId).nodes = [node] ∧ Node.tagsAll [node] ⊆ Vocabulary.answers) ∧
      (WellFormed (outcome.answer caller requestId).body ↔
        ∀ text ∈ outcome.echoes caller, Legal text) := by
  rcases houtcome : (x.outcome desk caller occasion).run b with ⟨outcome, b'⟩
  have hserve := x.serve_eq_outcome desk caller occasion requestId b
  rw [houtcome] at hserve
  have hpresentable : outcome.Presentable := by
    cases outcome with
    | failed e => trivial
    | served request reply =>
        exact session.presentable hempty hturns hgiven (Http.Exchange.served_of_outcome houtcome)
  exact ⟨outcome, b', rfl, hserve, Http.Outcome.read?_answer hpresentable caller hid⟩

namespace Sample

theorem wellGiven : WellGiven desk caller occasion := by
  refine ⟨by decide, by decide, by decide, ?_, ?_⟩
  · intro i c hc
    rw [occasion, String.toList_append, List.mem_append] at hc
    rcases hc with hc | hc
    · obtain rfl := List.mem_singleton.mp hc
      decide
    · exact bare_toString_nat i c hc
  · intro i
    exact legal_append_iff.mpr ⟨by decide, (bare_toString_nat i).legal⟩

/-- A queue with a message whose body looks like the end of its element. -/
def markedBody : List (Occasion × Request) :=
  [(occasion, .createQueue (some "q") []),
    (occasion, .sendMessage (locator "q") ⟨some "</Body>", none, []⟩)]

/-- An exchange that receives from the queue. -/
def receiving : Http.Exchange :=
  { method := .get, target := .ofText "/123456789012/q?Action=ReceiveMessage", body := [] }

theorem request_receiving : receiving.request = .ok (.receiveMessages "/123456789012/q" none) := by
  have hquery : Form.Spells (Utf8.encode receiving.target.query) _ :=
    Form.spells_write [("Action", "ReceiveMessage")]
  have hbody : Form.Spells receiving.body _ := Form.spells_write []
  rw [Http.Exchange.request_of_spells hquery hbody]
  rfl

/-- An exchange whose action is a control character. -/
def controlAction : Http.Exchange :=
  { method := .get, target := .ofText "/?Action=%01", body := [] }

theorem request_controlAction :
    controlAction.request = .error (.actionUnknown (String.ofList [Char.ofNat 1])) := by
  have hquery : Form.Spells (Utf8.encode controlAction.target.query) _ :=
    Form.spells_write [("Action", String.ofList [Char.ofNat 1])]
  have hbody : Form.Spells controlAction.body _ := Form.spells_write []
  rw [Http.Exchange.request_of_spells hquery hbody]
  rfl

end Sample

/-- A body that looks like markup is handed out in a document that is well formed. -/
theorem answered_document_markedBody :
    ∃ turns b b' m, Session (.reliable .empty) turns b ∧
      (Sample.receiving.outcome Sample.desk Sample.caller Sample.occasion).run b =
        (.served (.receiveMessages "/123456789012/q" none) (.messages [m]), b') ∧
      m.body = "</Body>" ∧
      WellFormed ((Sample.receiving.serve Sample.desk Sample.caller Sample.occasion "r").run b).1.body := by
  obtain ⟨turns, b, session, hturns, m, b', served, hbody, hattributes⟩ : ∃ turns b,
      Session (.reliable .empty) turns b ∧ (∀ turn ∈ turns, turn.WellGiven) ∧ ∃ m b',
        (Request.serve Sample.desk Sample.caller Sample.occasion
          (.receiveMessages "/123456789012/q" none)).runOn b = (.ok (.messages [m]), b') ∧
        m.body = "</Body>" ∧ m.attributes.entries = [] :=
    ⟨_, _, session_serveAll Sample.desk Sample.caller (.reliable .empty) Sample.markedBody,
      serveAll_wellGiven (by
        intro r hr
        simp only [Sample.markedBody, List.mem_cons, List.not_mem_nil, or_false] at hr
        rcases hr with rfl | rfl <;> exact Sample.wellGiven),
      _, _, rfl, rfl, rfl⟩
  have houtcome := Http.Exchange.outcome_of_request Sample.request_receiving Sample.desk
    Sample.caller Sample.occasion b
  rw [served] at houtcome
  obtain ⟨outcome, b₁, hcome, hserve, -, hformed⟩ :=
    Session.answered_document session rfl hturns Sample.wellGiven (by decide : Bare "r")
      Sample.receiving
  obtain ⟨rfl, rfl⟩ := Prod.mk.inj (houtcome.symm.trans hcome)
  refine ⟨turns, b, b', m, session, houtcome, hbody, ?_⟩
  rw [hserve]
  refine hformed.mpr ?_
  intro text htext
  simp [Http.Outcome.echoes, Reply.echoes, hattributes] at htext

/-- A control character for an action comes back in a document that is not well formed. -/
theorem answered_document_controlAction :
    ¬ ∀ x : Http.Exchange, WellFormed
      ((x.serve Sample.desk Sample.caller Sample.occasion "r").run (.reliable .empty)).1.body := by
  intro h
  have hformed := h Sample.controlAction
  have houtcome : ((Sample.controlAction.outcome Sample.desk Sample.caller Sample.occasion).run
      (.reliable .empty)).1 = .failed (.actionUnknown (String.ofList [Char.ofNat 1])) := by
    unfold Http.Exchange.outcome
    rw [Sample.request_controlAction]
    rfl
  rw [Http.Exchange.serve_eq_outcome, houtcome] at hformed
  have hpresentable : (Http.Outcome.failed
      (.actionUnknown (String.ofList [Char.ofNat 1]))).Presentable := trivial
  have hid : Bare "r" := by decide
  have hlegal := (Http.Outcome.read?_answer hpresentable Sample.caller hid).2.mp hformed
    (String.ofList [Char.ofNat 1]) List.mem_cons_self
  exact absurd hlegal (by decide)

end QueueService
