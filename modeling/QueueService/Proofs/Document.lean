import Mathlib
import QueueService.Dict.Lemmas
import QueueService.Query.Reply
import QueueService.Proofs.Markup

/-!
# The documents of answers

Replies and reports are documents over one vocabulary, whatever they tell. Of their texts only those have
characters that XML does not know which quote a caller without a check (`echoes`): the wording of refusals,
access policies and the data types of message attributes. All other texts are legal where the reply is
presentable (`Reply.Presentable`), that is, where bodies, values and names have passed their checks.

* `ServiceError.quotes` — the wording of a failure is legal if what it quotes is, and only then.
* `Reply.toXml_over`, `ErrorReport.toXml_over` — answers are over one vocabulary.
* `Reply.legal_texts_iff`, `ErrorReport.legal_texts_iff` — their texts are legal if what they quote is, and
  only then.
-/

namespace QueueService

open Xml Xml.Vocabulary

/-! ## What refusals quote -/

/-- The texts of a caller that the wording of a reason quotes. -/
def RedrivePolicy.Reason.echoes : RedrivePolicy.Reason → List String
  | missingMember key => [key]
  | receiveCount found _ => [found]
  | _ => []

/-- The texts of a caller that the wording of an error quotes. -/
def RedrivePolicy.Error.echoes : RedrivePolicy.Error → List String
  | notAMap => []
  | invalid document reason => document :: reason.echoes

/-- The texts of a caller that the wording of an error quotes. Characters are named by their numbers. -/
def AttributeError.echoes : AttributeError → List String
  | nameTaken name => [name]
  | valueMissing name => [name]
  | typeEmpty name => [name]
  | typeUnknown name => [name]
  | notBase64 name => [name]
  | valueEmpty name dataType => [name, dataType]
  | severalValues name => [name]
  | needsText name _ => [name]
  | textCharacter name _ => [name]
  | notANumber name => [name]
  | needsBytes name => [name]
  | _ => []

/-- The texts that callers are told of a store's failure. -/
def StoreError.echoes : StoreError → List String
  | queueExists name => [name]
  | handleNotFound handle => [handle]
  | _ => []

/-- The texts of a caller that the wording of a failure quotes. -/
def ServiceError.echoes : ServiceError → List String
  | attributeNotANumber name => [name]
  | attributeOutOfRange name _ _ => [name]
  | redrive cause => cause.echoes
  | queueConflict name => [name]
  | addressInvalid locator => [locator]
  | notTheOwner locator => [locator]
  | entryIdRepeated id => [id]
  | delayNotANumber value => [value]
  | messageAttribute cause => cause.echoes
  | parameterMissing name => [name]
  | parameterNotANumber name value => [value, name]
  | parameterNotText name => [name]
  | actionUnknown action => [action]
  | store cause => cause.echoes
  | _ => []

theorem RedrivePolicy.Reason.quotes (reason : RedrivePolicy.Reason) :
    Quotes reason.message reason.echoes := by
  cases reason with
  | missingMember key => exact ((Quotes.literal rfl).quote key).words rfl
  | extraMember => exact ((((Quotes.literal rfl).words rfl).words rfl).words rfl).words rfl
  | receiveCount found limit =>
      exact ((((((Quotes.literal rfl).words rfl).words rfl).quote found).words rfl).number limit).words
        rfl
  | targetName => exact ((Quotes.literal rfl).words rfl).words rfl
  | otherRegion | otherAccount | targetMissing => exact .literal rfl

theorem RedrivePolicy.Error.quotes (e : RedrivePolicy.Error) : Quotes e.message e.echoes := by
  cases e with
  | notAMap => exact (Quotes.literal rfl).words rfl
  | invalid document reason =>
      exact (((Quotes.literal rfl).quote document).words rfl).append reason.quotes

theorem AttributeError.quotes (e : AttributeError) : Quotes e.message e.echoes := by
  have hkind : ∀ kind : AttributeKind, Legal kind.toText := by
    intro kind
    cases kind <;> exact .literal rfl
  cases e with
  | nameEmpty | nameReserved | nameSuccessiveDots | listValue => exact .literal rfl
  | nameTooLong limit | typeTooLong limit =>
      exact ((Quotes.literal rfl).number limit).words rfl
  | nameCharacter c =>
      exact (((Quotes.literal rfl).legal (legal_codePointLabel c)).words rfl).words rfl
  | nameTaken name | valueMissing name | typeEmpty name | notBase64 name | severalValues name
  | notANumber name | needsBytes name =>
      exact ((Quotes.literal rfl).quote name).words rfl
  | typeUnknown name => exact (((Quotes.literal rfl).quote name).words rfl).words rfl
  | valueEmpty name dataType =>
      exact ((((Quotes.literal rfl).quote name).words rfl).quote dataType).words rfl
  | needsText name kind =>
      exact ((((Quotes.literal rfl).quote name).words rfl).legal (hkind kind)).words rfl
  | textCharacter name c =>
      exact (((((Quotes.literal rfl).legal (legal_codePointLabel c)).words rfl).quote name).words
        rfl).words rfl

theorem ServiceError.storeMessage_quotes (e : StoreError) : Quotes (storeMessage e) e.echoes := by
  cases e with
  | queueNotFound | backend => exact .literal rfl
  | queueExists name => exact (Quotes.self name).words rfl
  | handleNotFound handle => exact ((Quotes.literal rfl).quote handle).words rfl

theorem QueueAttribute.legal_listing : Legal QueueAttribute.listing := by
  refine legal_intercalate (by decide) ?_
  intro name hname
  obtain ⟨a, -, rfl⟩ := List.mem_map.mp hname
  cases a <;> exact .literal rfl

/-- **The wording of a failure is legal if what it quotes is,** and only then. -/
theorem ServiceError.quotes (e : ServiceError) : Quotes e.message e.echoes := by
  cases e with
  | queueNameMissing | queueNameEmpty | queueMissing | batchEmpty | bodyMissing | policy =>
      exact .literal rfl
  | queueNameInvalid limit | messageTooLong limit =>
      exact ((Quotes.literal rfl).number limit).words rfl
  | attributeUnknown => exact (Quotes.literal rfl).legal QueueAttribute.legal_listing
  | attributeNotANumber name | queueConflict name => exact (Quotes.self name).words rfl
  | attributeOutOfRange name least greatest =>
      exact ((((Quotes.self name).words rfl).number least).words rfl).number greatest
  | redrive cause => exact cause.quotes
  | addressInvalid locator | notTheOwner locator | entryIdRepeated locator
  | delayNotANumber locator | parameterMissing locator | parameterNotText locator
  | actionUnknown locator =>
      exact ((Quotes.literal rfl).quote locator).words rfl
  | receiveCount asked greatest =>
      exact (((((Quotes.literal rfl).legal (bare_toString_int asked).legal).words rfl).words
        rfl).number greatest).words rfl
  | batchTooLong entries greatest =>
      exact ((((Quotes.literal rfl).number greatest).words rfl).number entries).words rfl
  | entryIdInvalid => exact (Quotes.literal rfl).words rfl
  | delayOutOfRange greatest => exact (Quotes.literal rfl).number greatest
  | messageAttribute cause => exact cause.quotes
  | bodyCharacter c =>
      exact (((Quotes.literal rfl).legal (legal_codePointLabel c)).words rfl).words rfl
  | parameterNotANumber name value =>
      exact ((((Quotes.literal rfl).quote value).words rfl).quote name).words rfl
  | store cause => exact storeMessage_quotes cause

/-! ## The vocabulary -/

/-- The names of the actions. -/
def Request.actions : List String :=
  ["CreateQueue", "GetQueueUrl", "ListQueues", "GetQueueAttributes", "PurgeQueue", "DeleteQueue",
    "SendMessage", "SendMessageBatch", "ReceiveMessage", "DeleteMessage"]

theorem Request.action_mem (request : Request) : request.action ∈ actions := by
  cases request <;> simp [action, actions]

/-- The names of the elements that stand in others. -/
def Xml.innerNames : List String :=
  ["Error", "Type", "Code", "Message", "Detail", "RequestId", "ResponseMetadata", "QueueUrl",
    "Attribute", "Name", "Value", "MessageId", "MD5OfMessageBody", "MD5OfMessageAttributes",
    "SendMessageBatchResultEntry", "BatchResultErrorEntry", "Id", "SenderFault", "ReceiptHandle",
    "MD5OfBody", "Body", "MessageAttribute", "DataType", "StringValue", "BinaryValue",
    "StringListValue", "BinaryListValue"]

/-- The tags of answers. Only the outermost one has an attribute. -/
def Xml.Vocabulary.answers : Vocabulary :=
  ("ErrorResponse" :: Request.actions.map (· ++ "Response")).map
      (·, [("xmlns", ErrorReport.xmlNamespace)]) ++
    (Request.actions.map (· ++ "Result") ++ innerNames).map (·, [])

namespace Xml.Vocabulary

theorem sound_answers : answers.Sound := by
  have hnamespace : isName "xmlns".toList = true ∧ '"' ∉ ErrorReport.xmlNamespace.toList ∧
      Bare ErrorReport.xmlNamespace := ⟨rfl, by decide +kernel, .literal rfl⟩
  have hattributes : ∀ t ∈ answers, t.2 = [] ∨ t.2 = [("xmlns", ErrorReport.xmlNamespace)] := by
    intro t ht
    rcases List.mem_append.mp ht with ht | ht
    · obtain ⟨name, -, rfl⟩ := List.mem_map.mp ht
      exact Or.inr rfl
    · obtain ⟨name, -, rfl⟩ := List.mem_map.mp ht
      exact Or.inl rfl
  refine ⟨by decide +kernel, ?_, ?_, ?_⟩
  · intro t ht a ha
    rcases hattributes t ht with heq | heq
    · rw [heq] at ha
      cases ha
    · rw [heq, List.mem_singleton] at ha
      rw [ha]
      exact hnamespace.1
  · intro t ht a ha
    rcases hattributes t ht with heq | heq
    · rw [heq] at ha
      cases ha
    · rw [heq, List.mem_singleton] at ha
      rw [ha]
      exact hnamespace.2
  · intro t ht
    rcases hattributes t ht with heq | heq
    · rw [heq]
      exact List.nodup_nil
    · rw [heq]
      exact List.nodup_cons.mpr ⟨List.not_mem_nil, List.nodup_nil⟩

section Inner

variable {name : String} (h : name ∈ innerNames)

include h

theorem inner_mem : (name, []) ∈ answers :=
  List.mem_append_right _ (List.mem_map_of_mem (List.mem_append_right _ h))

theorem over_node {content : List Xml} (inner : ∀ x ∈ content, x.Over answers) :
    (Xml.node name content).Over answers :=
  .node (inner_mem h) inner

theorem over_leaf (text : String) : (Xml.leaf name text).Over answers :=
  .leaf (inner_mem h) text

/-- An element that holds a text that is written as it is. -/
theorem over_field {text : String} (bare : Bare text) :
    (Xml.node name [.verbatim text]).Over answers :=
  .field (inner_mem h) bare

end Inner

theorem result_mem (request : Request) : (request.action ++ "Result", []) ∈ answers :=
  List.mem_append_right _
    (List.mem_map_of_mem (List.mem_append_left _ (List.mem_map_of_mem request.action_mem)))

theorem response_mem (request : Request) :
    (request.action ++ "Response", [("xmlns", ErrorReport.xmlNamespace)]) ∈ answers :=
  List.mem_append_left _
    (List.mem_map_of_mem (List.mem_cons_of_mem _ (List.mem_map_of_mem request.action_mem)))

theorem errorResponse_mem : ("ErrorResponse", [("xmlns", ErrorReport.xmlNamespace)]) ∈ answers :=
  List.mem_append_left _ (List.mem_map_of_mem List.mem_cons_self)

end Xml.Vocabulary

/-! ## Reports -/

/-- The blanks between elements. -/
theorem legal_blanks : Legal "\n" ∧ Legal "\n  " ∧ Legal "\n    " := by decide

namespace ErrorReport

theorem toXml_over (report : ErrorReport) (h : Bare report.requestId) :
    report.toXml.Over Vocabulary.answers := by
  refine .element Vocabulary.errorResponse_mem ?_
  simp only [List.forall_mem_cons]
  refine ⟨.text _, over_node (by decide) ?_, .text _,
    over_field (by decide) h, .text _, List.forall_mem_nil _⟩
  simp only [List.forall_mem_cons]
  refine ⟨.text _, over_leaf (by decide) _, .text _,
    over_leaf (by decide) _, .text _,
    over_leaf (by decide) _, .text _, ?_, .text _,
    List.forall_mem_nil _⟩
  -- there is an element for the detail even where it is not told
  split
  · exact over_leaf (by decide) _
  · exact .empty (inner_mem (by decide))

/-- Of a report, the wording and what lies behind the failure are in question. -/
theorem legal_texts_iff (report : ErrorReport) :
    (∀ s ∈ report.toXml.texts, Legal s) ↔
      Legal report.message ∧ ∀ detail ∈ report.detail?, Legal detail := by
  have hfault : Legal report.code.fault := by
    cases report.code <;> exact .literal rfl
  have hwire : Legal report.code.wire := by
    cases report.code <;> exact .literal rfl
  cases hdetail : report.detail? <;>
    simp [toXml, node, leaf, texts, textsAll, hfault, hwire, legal_blanks, hdetail]

end ErrorReport

/-! ## Replies -/

/-- **Presentable.** Identifier and digests of a receipt need no escape. -/
structure Receipt.Presentable (r : Receipt) : Prop where
  messageId : Bare r.messageId
  bodyDigest : Bare r.bodyDigest
  attributesDigest : ∀ digest ∈ r.attributesDigest?, Bare digest

/-- The texts of a payload. -/
def Payload.toldTexts : Payload → List String
  | text value => [value]
  | bytes _ => []
  | texts values => values
  | blobs _ => []

/-- **Presentable.** All texts of the message are legal, data types apart, and those that are written as
    they are need no escape. -/
structure Message.Presentable (m : Message) : Prop where
  id : Bare m.id
  handle : Legal (m.receiptHandle?.getD "")
  bodyDigest : Bare m.bodyDigest
  body : Legal m.body
  bookkeeping : ∀ e ∈ m.bookkeeping.entries, Bare e.1 ∧ Legal e.2
  attributesDigest : ∀ digest ∈ m.attributesDigest?, Bare digest
  names : ∀ e ∈ m.attributes.entries, Legal e.1
  values : ∀ e ∈ m.attributes.entries, ∀ s ∈ e.2.payload.toldTexts, Legal s

/-- **Writable.** What is written of the message as it is needs no escape. -/
structure Message.Writable (m : Message) : Prop where
  id : Bare m.id
  bodyDigest : Bare m.bodyDigest
  keys : ∀ e ∈ m.bookkeeping.entries, Bare e.1
  attributesDigest : ∀ digest ∈ m.attributesDigest?, Bare digest

theorem Message.Presentable.writable {m : Message} (h : m.Presentable) : m.Writable :=
  { id := h.id
    bodyDigest := h.bodyDigest
    keys := fun e he => (h.bookkeeping e he).1
    attributesDigest := h.attributesDigest }

namespace Reply

/-- **Presentable.** All texts of the reply are legal, apart from those that it quotes. -/
def Presentable : Reply → Prop
  | address url => Legal url
  | addresses urls => ∀ url ∈ urls, Legal url
  | description attributes => ∀ e ∈ attributes.entries, e.1 ≠ .policy → Legal e.2
  | sent receipt => receipt.Presentable
  | batch outcome =>
    (∀ s ∈ outcome.successful, Legal s.1 ∧ s.2.Presentable) ∧ ∀ f ∈ outcome.failed, Legal f.1
  | messages received => ∀ m ∈ received, m.Presentable
  | done => True

/-- **Writable.** What is written of the reply as it is needs no escape. -/
def Writable : Reply → Prop
  | sent receipt => receipt.Presentable
  | batch outcome => ∀ s ∈ outcome.successful, s.2.Presentable
  | messages received => ∀ m ∈ received, m.Writable
  | _ => True

theorem Presentable.writable {reply : Reply} (h : reply.Presentable) : reply.Writable := by
  cases reply with
  | sent receipt => exact h
  | batch outcome => exact fun s hs => (h.1 s hs).2
  | messages received => exact fun m hm => (h m hm).writable
  | address | addresses | description | done => trivial

/-- The texts of callers that a reply quotes without a check. -/
def echoes : Reply → List String
  | description attributes => (attributes.find? .policy).toList
  | batch outcome => outcome.failed.flatMap fun f => f.2.echoes
  | messages received => received.flatMap fun m => m.attributes.entries.map fun e => e.2.dataType
  | _ => []

theorem over_attributesDigest {digest? : Option String} (h : ∀ digest ∈ digest?, Bare digest) :
    ∀ x ∈ attributesDigestXml digest?, x.Over answers := by
  intro x hx
  obtain ⟨digest, hdigest, rfl⟩ := List.mem_map.mp hx
  exact over_field (by decide) (h digest (Option.mem_toList.mp hdigest))

theorem over_receipt {r : Receipt} (h : r.Presentable) : ∀ x ∈ r.toXml, x.Over answers := by
  rw [Receipt.toXml, List.forall_mem_append]
  refine ⟨?_, over_attributesDigest h.attributesDigest⟩
  simp only [List.forall_mem_cons]
  exact ⟨over_field (by decide) h.messageId, over_field (by decide) h.bodyDigest,
    List.forall_mem_nil _⟩

theorem over_namedText {name : String} (h : Bare name) (value : String) :
    (namedTextXml name value).Over answers := by
  refine over_node (by decide) ?_
  simp only [List.forall_mem_cons]
  exact ⟨over_field (by decide) h, over_leaf (by decide) value,
    List.forall_mem_nil _⟩

theorem over_payload (p : Payload) : ∀ x ∈ p.toXml, x.Over answers := by
  cases p with
  | text value => exact List.forall_mem_singleton.mpr (over_leaf (by decide) value)
  | bytes value =>
      exact List.forall_mem_singleton.mpr (over_field (by decide) (bare_base64 value))
  | texts values =>
      intro x hx
      obtain ⟨value, -, rfl⟩ := List.mem_map.mp hx
      exact over_leaf (by decide) value
  | blobs values =>
      intro x hx
      obtain ⟨value, -, rfl⟩ := List.mem_map.mp hx
      exact over_field (by decide) (bare_base64 value)

theorem over_attribute (name : String) (value : AttributeValue) :
    (value.toXml name).Over answers := by
  refine over_node (by decide) ?_
  simp only [List.forall_mem_cons]
  refine ⟨over_leaf (by decide) name, over_node (by decide) ?_,
    List.forall_mem_nil _⟩
  rw [List.forall_mem_cons]
  exact ⟨over_leaf (by decide) value.dataType, over_payload value.payload⟩

theorem over_message {m : Message} (h : m.Writable) : m.toXml.Over answers := by
  refine over_node (by decide) ?_
  rw [List.forall_mem_append, List.forall_mem_append, List.forall_mem_append]
  refine ⟨⟨⟨?_, ?_⟩, over_attributesDigest h.attributesDigest⟩, ?_⟩
  · simp only [List.forall_mem_cons]
    exact ⟨over_field (by decide) h.id, over_leaf (by decide) _,
      over_field (by decide) h.bodyDigest, over_leaf (by decide) _,
      List.forall_mem_nil _⟩
  · intro x hx
    obtain ⟨e, he, rfl⟩ := List.mem_map.mp hx
    exact over_namedText (h.keys e he) e.2
  · intro x hx
    obtain ⟨e, -, rfl⟩ := List.mem_map.mp hx
    exact over_attribute e.1 e.2

theorem over_batch {outcome : BatchOutcome} (h : (batch outcome).Writable) :
    ∀ x ∈ outcome.toXml, x.Over answers := by
  rw [BatchOutcome.toXml, List.forall_mem_append]
  refine ⟨?_, ?_⟩
  · intro x hx
    obtain ⟨s, hs, rfl⟩ := List.mem_map.mp hx
    refine over_node (by decide) ?_
    rw [List.forall_mem_cons]
    exact ⟨over_leaf (by decide) s.1, over_receipt (h s hs)⟩
  · intro x hx
    obtain ⟨f, -, rfl⟩ := List.mem_map.mp hx
    have hfault : ∀ fault : Bool, Bare (toString fault) := by decide
    have hwire : ∀ code : ErrorCode, Bare code.wire := by
      intro code
      cases code <;> exact .literal rfl
    refine over_node (by decide) ?_
    simp only [List.forall_mem_cons]
    exact ⟨over_leaf (by decide) f.1, over_field (by decide) (hfault _),
      over_field (by decide) (hwire _), over_leaf (by decide) f.2.message,
      List.forall_mem_nil _⟩

theorem over_content {reply : Reply} (h : reply.Writable) :
    ∀ x ∈ reply.content, x.Over answers := by
  cases reply with
  | address url => exact List.forall_mem_singleton.mpr (over_leaf (by decide) url)
  | addresses urls =>
      intro x hx
      obtain ⟨url, -, rfl⟩ := List.mem_map.mp hx
      exact over_leaf (by decide) url
  | description attributes =>
      intro x hx
      obtain ⟨e, -, rfl⟩ := List.mem_map.mp hx
      have hname : ∀ a : QueueAttribute, Bare a.toText := by
        intro a
        cases a <;> exact .literal rfl
      exact over_namedText (hname e.1) e.2
  | sent receipt => exact over_receipt h
  | batch outcome => exact over_batch h
  | messages received =>
      intro x hx
      obtain ⟨m, hm, rfl⟩ := List.mem_map.mp hx
      exact over_message (h m hm)
  | done => exact List.forall_mem_nil _

theorem textsAll_attributesDigest (digest? : Option String) :
    textsAll (attributesDigestXml digest?) = [] := by
  cases digest? <;> rfl

theorem textsAll_receipt (r : Receipt) : textsAll r.toXml = [] := by
  rw [Receipt.toXml, textsAll_append, textsAll_attributesDigest]
  rfl

theorem textsAll_payload (p : Payload) : ∀ s ∈ textsAll p.toXml, s ∈ p.toldTexts := by
  cases p with
  | text value => exact fun _ hs => hs
  | bytes value => exact List.forall_mem_nil _
  | texts values => exact forall_textsAll_map.mpr (by simp [leaf, texts, textsAll, Payload.toldTexts])
  | blobs values => exact forall_textsAll_map.mpr fun _ _ => List.forall_mem_nil _

/-- Of a presentable message, the data types of its attributes are in question. -/
theorem legal_message_iff {m : Message} (h : m.Presentable) :
    (∀ s ∈ m.toXml.texts, Legal s) ↔ ∀ e ∈ m.attributes.entries, Legal e.2.dataType := by
  have hattribute : ∀ e ∈ m.attributes.entries,
      (∀ s ∈ (e.2.toXml e.1).texts, Legal s) ↔ Legal e.2.dataType := by
    intro e he
    have htexts : (e.2.toXml e.1).texts = e.1 :: e.2.dataType :: textsAll e.2.payload.toXml := by
      simp [AttributeValue.toXml, node, leaf, texts, textsAll]
    rw [htexts, List.forall_mem_cons, List.forall_mem_cons]
    constructor
    · intro hall
      exact hall.2.1
    · intro htype
      refine ⟨h.names e he, htype, ?_⟩
      intro s hs
      exact h.values e he s (textsAll_payload e.2.payload s hs)
  have hattributes : (∀ s ∈ textsAll (m.attributes.entries.map fun e => e.2.toXml e.1), Legal s) ↔
      ∀ e ∈ m.attributes.entries, Legal e.2.dataType := by
    rw [forall_textsAll_map]
    exact forall₂_congr hattribute
  have hbooks : ∀ s ∈ textsAll (m.bookkeeping.entries.map fun e => namedTextXml e.1 e.2), Legal s := by
    rw [forall_textsAll_map]
    intro e he
    exact List.forall_mem_singleton.mpr (h.bookkeeping e he).2
  rw [Message.toXml, node, texts, textsAll_append, textsAll_append, textsAll_append,
    textsAll_attributesDigest, List.append_nil, List.forall_mem_append, List.forall_mem_append,
    hattributes]
  -- handle, body and bookkeeping are legal, so that the attributes are left
  apply and_iff_right
  exact ⟨List.forall_mem_cons.mpr ⟨h.handle, List.forall_mem_singleton.mpr h.body⟩, hbooks⟩

/-- **Of a presentable reply, what it quotes is in question.** -/
theorem legal_content_iff {reply : Reply} (h : reply.Presentable) :
    (∀ s ∈ textsAll reply.content, Legal s) ↔ ∀ s ∈ reply.echoes, Legal s := by
  cases reply with
  | address url => exact iff_of_true (List.forall_mem_singleton.mpr h) (List.forall_mem_nil _)
  | addresses urls =>
      refine iff_of_true (forall_textsAll_map.mpr ?_) (List.forall_mem_nil _)
      intro url hurl
      exact List.forall_mem_singleton.mpr (h url hurl)
  | description attributes =>
      rw [content, forall_textsAll_map, echoes]
      constructor
      · intro hall value hvalue
        exact hall _ (Dict.mem_entries_iff.mpr (Option.mem_toList.mp hvalue)) value
          List.mem_cons_self
      · intro hpolicy e he
        refine List.forall_mem_singleton.mpr (?_ : Legal e.2)
        by_cases heq : e.1 = .policy
        · refine hpolicy e.2 (Option.mem_toList.mpr ?_)
          rw [← heq]
          exact Dict.mem_entries_iff.mp he
        · exact h e he heq
  | sent receipt =>
      refine iff_of_true ?_ (List.forall_mem_nil _)
      rw [content, textsAll_receipt]
      exact List.forall_mem_nil _
  | batch outcome =>
      obtain ⟨hsuccessful, hfailed⟩ := h
      rw [content, BatchOutcome.toXml, textsAll_append, List.forall_mem_append, forall_textsAll_map,
        forall_textsAll_map, echoes, List.forall_mem_flatMap]
      constructor
      · rintro ⟨-, hall⟩ f hf
        exact f.2.quotes.mp (hall f hf _ (List.mem_cons_of_mem _ List.mem_cons_self))
      · intro hall
        refine ⟨?_, ?_⟩
        · intro s hs
          have htexts : textsAll (leaf "Id" s.1 :: s.2.toXml) = [s.1] := by
            rw [textsAll, textsAll_receipt]
            rfl
          show ∀ t ∈ textsAll _, Legal t
          rw [htexts]
          exact List.forall_mem_singleton.mpr (hsuccessful s hs).1
        · intro f hf
          exact List.forall_mem_cons.mpr
            ⟨hfailed f hf, List.forall_mem_singleton.mpr (f.2.quotes.mpr (hall f hf))⟩
  | messages received =>
      rw [content, forall_textsAll_map, echoes, List.forall_mem_flatMap]
      refine forall₂_congr fun m hm => ?_
      rw [legal_message_iff (h m hm), List.forall_mem_map]
  | done => exact Iff.rfl

/-- The document of a reply says no more than the reply. -/
theorem legal_texts_iff {reply : Reply} (h : reply.Presentable) (action requestId : String) :
    (∀ s ∈ (reply.toXml action requestId).texts, Legal s) ↔ ∀ s ∈ reply.echoes, Legal s := by
  rw [← legal_content_iff h]
  cases hcontent : reply.content with
  | nil => simp [toXml, hcontent, node, texts, textsAll, legal_blanks]
  | cons x rest => simp [toXml, hcontent, node, texts, textsAll, legal_blanks, or_imp, forall_and]

theorem toXml_over {reply : Reply} (h : reply.Writable) (request : Request) {requestId : String}
    (hid : Bare requestId) : (reply.toXml request.action requestId).Over answers := by
  refine .element (response_mem request) ?_
  rw [List.forall_mem_append]
  refine ⟨?_, ?_⟩
  · split
    · exact List.forall_mem_nil _
    · simp only [List.forall_mem_cons]
      exact ⟨.text _, .node (result_mem request) (over_content h), List.forall_mem_nil _⟩
  · simp only [List.forall_mem_cons]
    refine ⟨.text _, over_node (by decide) ?_, .text _, List.forall_mem_nil _⟩
    simp only [List.forall_mem_cons]
    exact ⟨.text _, over_field (by decide) hid, .text _, List.forall_mem_nil _⟩

end Reply

end QueueService
