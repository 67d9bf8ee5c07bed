import QueueService.Proofs.Answer
import QueueService.Proofs.EncodedBytes

/-!
# Documents of receives

What a receive hands out can be read off the document that it is answered with. The reader looks for
elements by their tags and takes the texts in them; bytes are read from their text. It finds every message
that it was meant to find, in order and whole, so that different messages never make the same document.

* `Message.read?_nodes` — a legible message is read as it was written.
* `Delivered.determined` — the statement for all receives of all sessions.
-/

namespace QueueService

open Operation Service Xml

/-! ## Looking for elements -/

namespace Xml.Node

/-- The character that a piece is. -/
def char? : Node → Option Char
  | char c => some c
  | element _ _ _ => none

/-- The text that pieces are. -/
def text? (content : List Node) : Option String := (content.mapM char?).map String.ofList

/-- What stands in a piece, if it is an element with a tag. -/
def inside? (tag : String) : Node → Option (List Node)
  | char _ => none
  | element tag' _ content => if tag' = tag then some content else none

/-- What stands in the elements with a tag, one after the other. -/
def under (tag : String) (content : List Node) : List (List Node) := content.filterMap (inside? tag)

/-- The text of the one element with a tag. -/
def textUnder? (tag : String) (content : List Node) : Option String :=
  match under tag content with
  | [inner] => text? inner
  | _ => none

/-- The text of the element with a tag, if there is one. -/
def optionalUnder? (tag : String) (content : List Node) : Option (Option String) :=
  match under tag content with
  | [] => some none
  | [inner] => (text? inner).map some
  | _ => none

end Xml.Node

open Xml.Node

/-! ## A reader of messages -/

/-- Read a name and a text. -/
def namedText? (content : List Node) : Option (String × String) := do
  let name ← textUnder? "Name" content
  let value ← textUnder? "Value" content
  return (name, value)

/-- Read a payload, which is a text or bytes that are written as text. -/
def Payload.read? (content : List Node) : Option Payload :=
  match under "StringValue" content, under "BinaryValue" content with
  | [inner], [] => (text? inner).map .text
  | [], [inner] => ((text? inner).bind Base64.decode?).map .bytes
  | _, _ => none

/-- Read a message attribute. -/
def AttributeValue.read? (content : List Node) : Option (String × AttributeValue) :=
  match under "Value" content with
  | [value] => do
    let name ← textUnder? "Name" content
    let dataType ← textUnder? "DataType" value
    let payload ← Payload.read? value
    return (name, { dataType, payload })
  | _ => none

/-- Read a message. -/
def Message.read? (content : List Node) : Option Message := do
  let id ← textUnder? "MessageId" content
  let handle ← textUnder? "ReceiptHandle" content
  let bodyDigest ← textUnder? "MD5OfBody" content
  let body ← textUnder? "Body" content
  let bookkeeping ← (under "Attribute" content).mapM namedText?
  let attributesDigest? ← optionalUnder? "MD5OfMessageAttributes" content
  let attributes ← (under "MessageAttribute" content).mapM AttributeValue.read?
  return {
    id
    receiptHandle? := some handle
    body
    bodyDigest
    attributesDigest?
    attributes := Dict.ofList attributes
    bookkeeping := Dict.ofList bookkeeping }

/-- Read the messages from the document of a receive. -/
def received? (document : List Char) : Option (List Message) :=
  match Xml.read? document with
  | some (.element "ReceiveMessageResponse" _ content) =>
    match under "ReceiveMessageResult" content with
    | [] => some []
    | [inner] => (under "Message" inner).mapM Message.read?
    | _ => none
  | _ => none

/-! ## What is found -/

/-- What each thing was turned into is turned back, and so is the list. -/
theorem mapM_map_some {α β : Type} {f : α → β} {g : β → Option α} {as : List α}
    (h : ∀ a ∈ as, g (f a) = some a) : (as.map f).mapM g = some as := by
  induction as with
  | nil => rfl
  | cons a rest ih =>
      rw [List.forall_mem_cons] at h
      simp [h.1, ih h.2]

namespace Xml

theorem nodesAll_append (front back : List Xml) :
    nodesAll (front ++ back) = nodesAll front ++ nodesAll back := by
  induction front with
  | nil => rfl
  | cons x rest ih => rw [List.cons_append, nodesAll, ih, nodesAll, List.append_assoc]

namespace Node

@[simp] theorem text?_map_char (text : String) : text? (text.toList.map .char) = some text := by
  have hall : ∀ c ∈ text.toList, char? (.char c) = some c := fun _ _ => rfl
  simp [text?, mapM_map_some hall]

@[simp] theorem under_nil (tag : String) : under tag [] = [] := rfl

@[simp] theorem under_append (tag : String) (front back : List Node) :
    under tag (front ++ back) = under tag front ++ under tag back :=
  List.filterMap_append

@[simp] theorem under_map_char (tag : String) (cs : List Char) : under tag (cs.map .char) = [] := by
  simp [under, List.filterMap_map, Function.comp_def, inside?]

@[simp] theorem under_element (tag tag' : String) (attributes : List (String × String))
    (content rest : List Node) :
    under tag (.element tag' attributes content :: rest) =
      (if tag' = tag then [content] else []) ++ under tag rest := by
  by_cases h : tag' = tag <;> simp [under, inside?, h]

/-- Elements of one kind are found by their tag, and by no other. -/
theorem under_nodesAll_map {α : Type} {f : α → Xml} {tag' : String} {content : α → List Xml}
    (h : ∀ a, f a = .node tag' (content a)) (tag : String) (as : List α) :
    under tag (nodesAll (as.map f)) =
      if tag' = tag then as.map (fun a => nodesAll (content a)) else [] := by
  induction as with
  | nil => simp [nodesAll]
  | cons a rest ih =>
      by_cases htag : tag' = tag <;> simp [nodesAll, h a, node, nodes, ih, htag]

end Node

end Xml

/-! ## What is written is found -/

/-- **Legible.** What is written of the message as it is needs no escape, there is a handle, and each
    attribute has a single value. -/
structure Message.Legible (m : Message) : Prop extends m.Writable where
  handle : m.receiptHandle?.isSome
  single : ∀ e ∈ m.attributes.entries, e.2.payload.Single

/-- The pieces of the element of a message. -/
def Message.pieces (m : Message) : List Xml :=
  [.node "MessageId" [.verbatim m.id],
    .leaf "ReceiptHandle" (m.receiptHandle?.getD ""),
    .node "MD5OfBody" [.verbatim m.bodyDigest],
    .leaf "Body" m.body] ++
  m.bookkeeping.entries.map (fun e => namedTextXml e.1 e.2) ++
  attributesDigestXml m.attributesDigest? ++
  m.attributes.entries.map fun e => e.2.toXml e.1

theorem Message.toXml_eq (m : Message) : m.toXml = .node "Message" m.pieces := rfl

/-- The pieces of the element of a named text. -/
def namedTextPieces (name value : String) : List Xml :=
  [.node "Name" [.verbatim name], .leaf "Value" value]

/-- The pieces of the element of a message attribute. -/
def AttributeValue.pieces (name : String) (value : AttributeValue) : List Xml :=
  [.leaf "Name" name, .node "Value" (.leaf "DataType" value.dataType :: value.payload.toXml)]

theorem namedTextXml_eq (name value : String) :
    namedTextXml name value = .node "Attribute" (namedTextPieces name value) := rfl

theorem AttributeValue.toXml_eq (name : String) (value : AttributeValue) :
    value.toXml name = .node "MessageAttribute" (value.pieces name) := rfl

theorem namedText?_pieces (name value : String) :
    namedText? (nodesAll (namedTextPieces name value)) = some (name, value) := by
  simp [namedText?, namedTextPieces, textUnder?, nodesAll, nodes, node, leaf]

section Payload

variable {p : Payload} (h : p.Single) (dataType : String)

include h

theorem textUnder?_dataType :
    textUnder? "DataType" (nodesAll (.leaf "DataType" dataType :: p.toXml)) = some dataType := by
  cases h <;> simp [textUnder?, Payload.toXml, nodesAll, nodes, node, leaf]

theorem Payload.read?_nodes : read? (nodesAll (.leaf "DataType" dataType :: p.toXml)) = some p := by
  cases h with
  | text value => simp [read?, Payload.toXml, nodesAll, nodes, leaf]
  | bytes value => simp [read?, Payload.toXml, nodesAll, nodes, node, leaf, Base64.decode?_encode]

end Payload

theorem AttributeValue.read?_pieces {value : AttributeValue} (h : value.payload.Single)
    (name : String) : read? (nodesAll (value.pieces name)) = some (name, value) := by
  have hname : textUnder? "Name" (nodesAll (value.pieces name)) = some name := by
    simp [textUnder?, pieces, nodesAll, nodes, node, leaf]
  have hvalue : under "Value" (nodesAll (value.pieces name)) =
      [nodesAll (.leaf "DataType" value.dataType :: value.payload.toXml)] := by
    simp [pieces, nodesAll, nodes, node, leaf]
  simp [read?, hname, hvalue, textUnder?_dataType h, Payload.read?_nodes h]

/-- Of the elements of a message those with one tag are found, wherever they stand. -/
theorem Message.under_pieces (m : Message) (tag : String) :
    under tag (nodesAll m.pieces) =
      (if "MessageId" = tag then [m.id.toList.map .char] else []) ++
      (if "ReceiptHandle" = tag then [(m.receiptHandle?.getD "").toList.map .char] else []) ++
      (if "MD5OfBody" = tag then [m.bodyDigest.toList.map .char] else []) ++
      (if "Body" = tag then [m.body.toList.map .char] else []) ++
      (if "Attribute" = tag then
        m.bookkeeping.entries.map fun e => nodesAll (namedTextPieces e.1 e.2) else []) ++
      (if "MD5OfMessageAttributes" = tag then
        m.attributesDigest?.toList.map fun digest => digest.toList.map .char else []) ++
      (if "MessageAttribute" = tag then
        m.attributes.entries.map fun e => nodesAll (e.2.pieces e.1) else []) := by
  have hbooks := under_nodesAll_map (f := fun e : String × String => namedTextXml e.1 e.2)
    (fun e => namedTextXml_eq e.1 e.2) tag m.bookkeeping.entries
  have hdigest := under_nodesAll_map
    (f := fun digest => Xml.node "MD5OfMessageAttributes" [.verbatim digest]) (fun _ => rfl) tag
    m.attributesDigest?.toList
  have hattributes := under_nodesAll_map
    (f := fun e : String × AttributeValue => e.2.toXml e.1)
    (fun e => AttributeValue.toXml_eq e.1 e.2) tag m.attributes.entries
  -- the four fields that are always there come first, and then the three lists of elements
  rw [pieces, nodesAll_append, nodesAll_append, nodesAll_append, under_append, under_append,
    under_append, hbooks, hattributes, attributesDigestXml, hdigest]
  simp only [nodesAll, nodes, node, leaf, under_element, under_append]
  simp

/-- **A legible message is read as it was written.** -/
theorem Message.read?_nodes {m : Message} (h : m.Legible) : read? (nodesAll m.pieces) = some m := by
  have hbooks : (m.bookkeeping.entries.map fun e => nodesAll (namedTextPieces e.1 e.2)).mapM
      namedText? = some m.bookkeeping.entries :=
    mapM_map_some fun e _ => namedText?_pieces e.1 e.2
  have hattributes : (m.attributes.entries.map fun e => nodesAll (e.2.pieces e.1)).mapM
      AttributeValue.read? = some m.attributes.entries :=
    mapM_map_some fun e he => AttributeValue.read?_pieces (h.single e he) e.1
  have hdigest : optionalUnder? "MD5OfMessageAttributes" (nodesAll m.pieces) =
      some m.attributesDigest? := by
    cases hcase : m.attributesDigest? <;> simp [optionalUnder?, under_pieces, hcase]
  obtain ⟨handle, hhandle⟩ := Option.isSome_iff_exists.mp h.handle
  have hread : read? (nodesAll m.pieces) = some { m with receiptHandle? := some handle } := by
    simp [read?, textUnder?, under_pieces, hbooks, hattributes, hdigest, hhandle]
  rw [hread, ← hhandle]

/-! ## Documents -/

section Document

variable {given : List Message} {requestId : String}

/-- The pieces of the root of the document of a receive. There is no result where nothing was there. -/
def resultPieces (given : List Message) (requestId : String) : List Xml :=
  (if (Reply.messages given).content.isEmpty then []
    else [.text "\n  ", .node "ReceiveMessageResult" (given.map Message.toXml)]) ++
  [.text "\n  ",
    .node "ResponseMetadata"
      [.text "\n    ", .node "RequestId" [.verbatim requestId], .text "\n  "],
    .text "\n"]

theorem toXml_messages (given : List Message) (requestId : String) :
    (Reply.messages given).toXml "ReceiveMessage" requestId =
      .element "ReceiveMessageResponse" [("xmlns", ErrorReport.xmlNamespace)]
        (resultPieces given requestId) := rfl

theorem under_resultPieces (given : List Message) (requestId : String) :
    under "ReceiveMessageResult" (nodesAll (resultPieces given requestId)) =
      if given = [] then [] else [nodesAll (given.map Message.toXml)] := by
  have hmetadata : under "ReceiveMessageResult" (nodesAll [.text "\n  ",
      .node "ResponseMetadata"
        [.text "\n    ", .node "RequestId" [.verbatim requestId], .text "\n  "],
      .text "\n"]) = [] := by
    simp only [nodesAll, nodes, node, under_append, under_map_char, under_element, under_nil]
    simp
  rw [resultPieces, nodesAll_append, under_append, hmetadata, List.append_nil]
  cases given with
  | nil => rfl
  | cons first rest =>
      show under _ (nodesAll [.text "\n  ", .node "ReceiveMessageResult" _]) = _
      simp only [nodesAll, nodes, node, under_append, under_map_char, under_element, under_nil]
      simp

/-- **The document of a receive is read as what was handed out.** -/
theorem received?_document (h : ∀ m ∈ given, m.Legible) (hid : Bare requestId) :
    received? ((Reply.messages given).toXml "ReceiveMessage" requestId).document.toList =
      some given := by
  have hwritable : (Reply.messages given).Writable := fun m hm => (h m hm).toWritable
  have hover := Reply.toXml_over hwritable (.receiveMessages "" none) hid
  have hmessages : (under "Message" (nodesAll (given.map Message.toXml))).mapM Message.read? =
      some given := by
    rw [under_nodesAll_map Message.toXml_eq, if_pos rfl]
    exact mapM_map_some fun m hm => Message.read?_nodes (h m hm)
  rw [Request.action, toXml_messages] at hover
  rw [toXml_messages, received?, read?_document Vocabulary.sound_answers hover]
  show (match under "ReceiveMessageResult" _ with
    | [] => some []
    | [inner] => (under "Message" inner).mapM Message.read?
    | _ => none) = _
  rw [under_resultPieces]
  by_cases hgiven : given = []
  · -- without messages there is no result, which is read as no messages
    rw [if_pos hgiven, hgiven]
  · rw [if_neg hgiven]
    exact hmessages

end Document

/-! ## All receives -/

/-- What a receiver sees of a message is legible if the receipt for it was presentable. -/
theorem Accepted.Seen.legible {a : Accepted} {first : Int} {k : Nat} {m : Message}
    (h : a.Seen first k m) (hreceipt : a.receipt.Presentable) : m.Legible := by
  obtain ⟨typed, htyped, hattributes⟩ := h.attributes
  have hsingle : ∀ e ∈ m.attributes.entries, e.2.payload.Single := by
    rw [hattributes]
    intro e he
    obtain ⟨accepted, hmem, rfl⟩ := (OutboundMessage.mem_attributeDict_iff htyped).mp he
    exact ((OfferedAttribute.acceptAll_ok htyped).2.2 accepted hmem).single
  exact { toWritable := h.writable hreceipt, handle := h.handle, single := hsingle }

/-- **A receive and its document.** After turns that began with an empty store, an exchange hands out
    messages and is answered with the document. The fresh identifiers of the turns and of the exchange need
    no escape. -/
inductive Delivered : List Turn → List Message → String → Prop
  | intro {b₀ b b' : Backend} {turns : List Turn} {desk : Desk} {caller : Caller}
      {occasion : Occasion} {x : Http.Exchange} {locator : String} {asked : Option Int}
      {given : List Message} {requestId : String} (session : Session b₀ turns b)
      (empty : b₀.store = .empty)
      (messageIds : ∀ turn ∈ turns, ∀ i, Bare (turn.occasion.messageIds i)) (bare : Bare requestId)
      (served : (x.outcome desk caller occasion).run b =
        (.served (.receiveMessages locator asked) (.messages given), b')) :
      Delivered turns given ((x.serve desk caller occasion requestId).run b).1.body

section Delivered

variable {turns : List Turn} {given : List Message} {document : String}

/-- What is handed out goes back to messages that were sent. -/
theorem Delivered.exists_seen (h : Delivered turns given document) :
    ∀ m ∈ given, ∃ a ∈ accepted turns, ∃ x first k,
      a.Put x ∧ a.Seen first k m ∧ a.receipt.Presentable := by
  obtain ⟨session, hempty, hids, -, served⟩ := h
  obtain ⟨_, hrun, hreply⟩ := map_ok (Http.Exchange.served_of_outcome served)
  cases hreply
  intro m hm
  obtain ⟨a, ha, x, log, before, n, now, full, hput, hhanded, rfl⟩ :=
    session.exists_handed hempty hrun m hm
  obtain ⟨hseen, -⟩ := hput.seen hhanded rfl
  exact ⟨a, ha, x, _, _, hput, hseen, session.presentable_receipts hids a ha⟩

/-- Whatever was sent, what is handed out is legible. -/
theorem Delivered.legible (h : Delivered turns given document) : ∀ m ∈ given, m.Legible := by
  intro m hm
  obtain ⟨a, -, x, first, k, -, hseen, hreceipt⟩ := h.exists_seen m hm
  exact hseen.legible hreceipt

theorem Delivered.exists_reply (h : Delivered turns given document) :
    ∃ requestId, Bare requestId ∧
      document = ((Reply.messages given).toXml "ReceiveMessage" requestId).document := by
  obtain ⟨session, hempty, hids, hid, served⟩ := h
  refine ⟨_, hid, ?_⟩
  rw [Http.Exchange.serve_eq_outcome, served]
  rfl

/-- **The document determines what was handed out.** Every document that a receive is answered with is read
    as the messages that were handed out, in order and whole, and no other receive with other messages is
    answered with the same document. -/
theorem Delivered.determined (h : Delivered turns given document) :
    received? document.toList = some given ∧
      ∀ ⦃turns' given'⦄, Delivered turns' given' document → given' = given := by
  have hread : ∀ {turns given}, Delivered turns given document →
      received? document.toList = some given := by
    intro turns given h
    obtain ⟨requestId, hid, heq⟩ := h.exists_reply
    rw [heq]
    exact received?_document h.legible hid
  refine ⟨hread h, ?_⟩
  intro turns' given' h'
  exact Option.some.inj ((hread h').symm.trans (hread h))

end Delivered

/-- Whatever one caller asks for first, what it then receives from the queue comes in a document. -/
theorem Sample.exists_delivered {requests : List (Occasion × Request)} {given : List Message}
    {b' : Backend} (hall : ∀ r ∈ requests, r.1 = occasion)
    (served : ((Request.receiveMessages "/123456789012/q" none).serve desk caller occasion).runOn
      (serveAll desk caller (.reliable .empty) requests).2 = (.ok (.messages given), b')) :
    ∃ document,
      Delivered (serveAll desk caller (.reliable .empty) requests).1 given document := by
  have hids : ∀ turn ∈ (serveAll desk caller (.reliable .empty) requests).1, ∀ i,
      Bare (turn.occasion.messageIds i) := by
    have hgiven : ∀ r ∈ requests, WellGiven desk caller r.1 := by
      intro r hr
      rw [hall r hr]
      exact wellGiven
    exact fun turn hturn => (serveAll_wellGiven hgiven turn hturn).messageIds
  have houtcome := Http.Exchange.outcome_of_request request_receiving desk caller occasion
    (serveAll desk caller (.reliable .empty) requests).2
  rw [served] at houtcome
  exact ⟨_, .intro (session_serveAll desk caller (.reliable .empty) requests) rfl hids
    (by decide : Bare "r") houtcome⟩

/-- A queue with a message that has markup in its body and in an attribute, and bytes in another one. -/
def markedMessage : List (Occasion × Request) :=
  [(Sample.occasion, .createQueue (some "q") []),
    (Sample.occasion, .sendMessage (Sample.locator "q")
      ⟨some "</Body>", none,
        [⟨"b", some ⟨"Binary", none, some "/w==", [], []⟩⟩,
          ⟨"s", some ⟨"String.&", some "<a>", none, [], []⟩⟩]⟩)]

/-- Texts and bytes are read from the document as they were sent. -/
theorem determined_markedMessage :
    ∃ turns m document, Delivered turns [m] document ∧ received? document.toList = some [m] ∧
      m.body = "</Body>" ∧ m.attributes.find? "b" = some ⟨"Binary", .bytes [255]⟩ ∧
      m.attributes.find? "s" = some ⟨"String.&", .text "<a>"⟩ := by
  obtain ⟨m, b', served, hbody, hbytes, htext⟩ : ∃ m b',
      ((Request.receiveMessages "/123456789012/q" none).serve Sample.desk Sample.caller
        Sample.occasion).runOn
          (serveAll Sample.desk Sample.caller (.reliable .empty) markedMessage).2 =
        (.ok (.messages [m]), b') ∧
      m.body = "</Body>" ∧ m.attributes.find? "b" = some ⟨"Binary", .bytes [255]⟩ ∧
      m.attributes.find? "s" = some ⟨"String.&", .text "<a>"⟩ := ⟨_, _, rfl, rfl, rfl, rfl⟩
  have hall : ∀ r ∈ markedMessage, r.1 = Sample.occasion := by
    simp [markedMessage]
  obtain ⟨document, hdelivered⟩ := Sample.exists_delivered hall served
  exact ⟨_, m, document, hdelivered, (Delivered.determined hdelivered).1, hbody, hbytes, htext⟩

end QueueService
