import QueueService.Proofs.ReceivedDocument

/-!
# Line ends in documents

Before a reader of XML looks for markup, it takes every line end for a line feed: a carriage return, and a
line feed behind it, become one line feed. Texts are written with the carriage returns that are in them, so
that what is read of a text has other line ends than the text. All else in the document of a receive is as
it was.

* `Xml.Lines` — what a piece is once the line ends of its written form have become line feeds.
* `Delivered.received?_lineFeeds` — the messages that are read from a document in this way.
* `Delivered.read_asSent_iff` — which texts come back as they were sent.
-/

namespace QueueService

open Operation Service Xml

/-! ## Line ends -/

namespace Xml

/-- Characters with a line feed for every line end. -/
def lineFeeds : List Char → List Char
  | '\r' :: '\n' :: rest => '\n' :: lineFeeds rest
  | '\r' :: rest => '\n' :: lineFeeds rest
  | c :: rest => c :: lineFeeds rest
  | [] => []

/-- A text with a line feed for every line end. -/
def lineFed (text : String) : String := String.ofList (lineFeeds text.toList)

theorem toList_lineFed (text : String) : (lineFed text).toList = lineFeeds text.toList :=
  String.toList_ofList

theorem lineFeeds_cons {c : Char} (h : c ≠ '\r') (cs : List Char) :
    lineFeeds (c :: cs) = c :: lineFeeds cs := by
  rw [lineFeeds]
  · rintro rest rfl
    exact absurd rfl h
  · exact h

theorem head?_ne_of_not_cons {cs : List Char} {c : Char} (h : ∀ rest, cs = c :: rest → False) :
    cs.head? ≠ some c := by
  cases cs with
  | nil => simp
  | cons first rest =>
      intro heq
      exact h rest (by simpa using heq)

/-- A carriage return without a line feed behind it becomes a line feed. -/
theorem lineFeeds_return {cs : List Char} (h : cs.head? ≠ some '\n') :
    lineFeeds ('\r' :: cs) = '\n' :: lineFeeds cs := by
  rw [lineFeeds]
  rintro rest rfl
  exact h rfl

theorem lineFeeds_eq_self {cs : List Char} (h : '\r' ∉ cs) : lineFeeds cs = cs := by
  induction cs with
  | nil => rfl
  | cons c rest ih =>
      rw [List.mem_cons, not_or] at h
      rw [lineFeeds_cons (Ne.symm h.1), ih h.2]

theorem notMem_lineFeeds (cs : List Char) : '\r' ∉ lineFeeds cs := by
  induction cs using lineFeeds.induct with
  | case1 rest ih => simp [lineFeeds, ih]
  | case2 rest hnext ih =>
      rw [lineFeeds]
      · simp [ih]
      · exact hnext
  | case3 c rest _ hreturn ih =>
      rw [lineFeeds_cons hreturn]
      simp [ih, Ne.symm hreturn]
  | case4 => simp [lineFeeds]

/-- **Texts without a carriage return stay as they are,** and no others do. -/
theorem lineFeeds_eq_self_iff {cs : List Char} : lineFeeds cs = cs ↔ '\r' ∉ cs := by
  constructor
  · intro h
    rw [← h]
    exact notMem_lineFeeds cs
  · exact lineFeeds_eq_self

theorem lineFed_eq_self_iff {text : String} : lineFed text = text ↔ '\r' ∉ text.toList := by
  rw [← String.toList_inj, toList_lineFed, lineFeeds_eq_self_iff]

/-- Line ends do not reach beyond what does not begin with a line feed. -/
theorem lineFeeds_append (cs : List Char) {ds : List Char} (h : ds.head? ≠ some '\n') :
    lineFeeds (cs ++ ds) = lineFeeds cs ++ lineFeeds ds := by
  induction cs using lineFeeds.induct with
  | case1 rest ih => simp [lineFeeds, ih]
  | case2 rest hnext ih =>
      have hrest := head?_ne_of_not_cons hnext
      have hboth : (rest ++ ds).head? ≠ some '\n' := by
        cases rest with
        | nil =>
            -- the carriage return stands last, and what follows it is no line feed
            exact h
        | cons c more => exact hrest
      rw [List.cons_append, lineFeeds_return hboth, lineFeeds_return hrest, ih, List.cons_append]
  | case3 c rest _ hreturn ih =>
      rw [List.cons_append, lineFeeds_cons hreturn, lineFeeds_cons hreturn, ih, List.cons_append]
  | case4 => rfl

/-- Characters without a carriage return stay as they are, whatever follows. -/
theorem lineFeeds_append_of_notMem {cs : List Char} (h : '\r' ∉ cs) (ds : List Char) :
    lineFeeds (cs ++ ds) = cs ++ lineFeeds ds := by
  induction cs with
  | nil => rfl
  | cons c rest ih =>
      rw [List.mem_cons, not_or] at h
      rw [List.cons_append, lineFeeds_cons (Ne.symm h.1), ih h.2, List.cons_append]

/-! ## What is written -/

/-- A character is not written as a line end, unless it is one. -/
theorem return_notMem_escapeChar {c : Char} (h : c ≠ '\r') : '\r' ∉ escapeChar c := by
  unfold escapeChar
  repeat' split
  all_goals simp [Ne.symm h]

theorem head?_escape {cs : List Char} (h : cs.head? ≠ some '\n') : (escape cs).head? ≠ some '\n' := by
  cases cs with
  | nil => simp [escape]
  | cons c rest =>
      have hc : c ≠ '\n' := by
        rintro rfl
        exact h rfl
      rw [escape, List.flatMap_cons]
      unfold escapeChar
      repeat' split
      all_goals simp [hc]

/-- Escapes leave line ends where they are. -/
theorem lineFeeds_escape (cs : List Char) : lineFeeds (escape cs) = escape (lineFeeds cs) := by
  induction cs using lineFeeds.induct with
  | case1 rest ih =>
      show lineFeeds ('\r' :: '\n' :: escape rest) = '\n' :: escape (lineFeeds rest)
      rw [lineFeeds, ih]
  | case2 rest hnext ih =>
      have hrest := head?_ne_of_not_cons hnext
      show lineFeeds ('\r' :: escape rest) = _
      rw [lineFeeds_return (head?_escape hrest), lineFeeds_return hrest, ih]
      rfl
  | case3 c rest _ hreturn ih =>
      show lineFeeds (escapeChar c ++ escape rest) = _
      rw [lineFeeds_append_of_notMem (return_notMem_escapeChar hreturn), ih, lineFeeds_cons hreturn]
      rfl
  | case4 => rfl

/-- **Line by line.** With line feeds for its line ends, one piece is written as the other, whatever
    follows. -/
def Lines (x y : Xml) : Prop :=
  ∀ rest, lineFeeds (x.write ++ rest) = y.write ++ lineFeeds rest

section Lines

variable {tag : String} {attributes : List (String × String)} {content content' : List Xml}

theorem Lines.writeAll (h : List.Forall₂ Lines content content') (rest : List Char) :
    lineFeeds (Xml.writeAll content ++ rest) = Xml.writeAll content' ++ lineFeeds rest := by
  induction h with
  | nil => rfl
  | cons first _ ih =>
      rw [Xml.writeAll, Xml.writeAll, List.append_assoc, first, ih, List.append_assoc]

/-- A text without a carriage return may stand between other pieces. -/
theorem Lines.text {text : String} (h : '\r' ∉ text.toList) : Lines (.text text) (.text text) := by
  have hescape : '\r' ∉ escape text.toList := by
    rw [escape, List.mem_flatMap]
    rintro ⟨c, hc, hmem⟩
    by_cases hreturn : c = '\r'
    · exact h (hreturn ▸ hc)
    · exact return_notMem_escapeChar hreturn hmem
  intro rest
  exact lineFeeds_append_of_notMem hescape rest

/-- The tags around some pieces stay as they are. -/
theorem Lines.element (hplain : '\r' ∉ tagBody tag attributes)
    (h : ∀ rest, rest.head? ≠ some '\n' →
      lineFeeds (Xml.writeAll content ++ rest) = Xml.writeAll content' ++ lineFeeds rest) :
    Lines (.element tag attributes content) (.element tag attributes content') := by
  obtain ⟨opening, hopening⟩ : ∃ cs, cs = '<' :: tagBody tag attributes ++ ['>'] := ⟨_, rfl⟩
  obtain ⟨closing, hclosing⟩ : ∃ cs, cs = '<' :: '/' :: tag.toList ++ ['>'] := ⟨_, rfl⟩
  have hwrite : ∀ inner : List Xml, (Xml.element tag attributes inner).write =
      opening ++ (Xml.writeAll inner ++ closing) := by
    intro inner
    simp [hopening, hclosing, write, tagBody]
  have hfront : '\r' ∉ opening := by simp [hopening, hplain]
  have hback : '\r' ∉ closing := by
    have htag : '\r' ∉ tag.toList := fun hmem => hplain (List.mem_append_left _ hmem)
    simp [hclosing, htag]
  intro rest
  -- behind the content stands a tag, so that a carriage return at its end is a line end of its own
  have hnext : (closing ++ rest).head? ≠ some '\n' := by simp [hclosing]
  rw [hwrite, hwrite, List.append_assoc, List.append_assoc, lineFeeds_append_of_notMem hfront,
    h _ hnext, lineFeeds_append_of_notMem hback, List.append_assoc, List.append_assoc]

theorem Lines.node (hplain : '\r' ∉ tag.toList) (h : List.Forall₂ Lines content content') :
    Lines (.node tag content) (.node tag content') := by
  refine .element ?_ fun rest _ => Lines.writeAll h rest
  simpa [tagBody] using hplain

/-- A text that stands alone in an element may have carriage returns. -/
theorem Lines.leaf (hplain : '\r' ∉ tag.toList) (text : String) :
    Lines (.leaf tag text) (.leaf tag (lineFed text)) := by
  refine .element (by simpa [tagBody] using hplain) fun rest hrest => ?_
  show lineFeeds (escape text.toList ++ [] ++ rest) = escape (lineFed text).toList ++ [] ++ _
  rw [List.append_nil, List.append_nil, lineFeeds_append _ hrest, lineFeeds_escape, toList_lineFed]

/-- The same of a text that is written as it is. -/
theorem Lines.field (hplain : '\r' ∉ tag.toList) (text : String) :
    Lines (.node tag [.verbatim text]) (.node tag [.verbatim (lineFed text)]) := by
  refine .element (by simpa [tagBody] using hplain) fun rest hrest => ?_
  show lineFeeds (text.toList ++ [] ++ rest) = (lineFed text).toList ++ [] ++ _
  rw [List.append_nil, List.append_nil, lineFeeds_append _ hrest, toList_lineFed]

/-- **Documents line by line.** -/
theorem Lines.document {x y : Xml} (h : Lines x y) :
    lineFeeds x.document.toList = y.document.toList := by
  have hdeclaration : '\r' ∉ declaration.toList := by decide
  have hwrite := h []
  rw [List.append_nil] at hwrite
  rw [toList_document, toList_document, lineFeeds_append_of_notMem hdeclaration, hwrite, lineFeeds,
    List.append_nil]

end Lines

end Xml

/-! ## Messages -/

/-- A payload with a line feed for every line end in its texts. -/
def Payload.lineFed : Payload → Payload
  | text value => text (Xml.lineFed value)
  | bytes value => bytes value
  | texts values => texts (values.map Xml.lineFed)
  | blobs values => blobs values

/-- A value with a line feed for every line end in its texts. -/
def AttributeValue.lineFed (value : AttributeValue) : AttributeValue :=
  { dataType := Xml.lineFed value.dataType, payload := value.payload.lineFed }

/-- A message with a line feed for every line end in its texts. -/
def Message.lineFed (m : Message) : Message :=
  { id := Xml.lineFed m.id
    receiptHandle? := m.receiptHandle?.map Xml.lineFed
    body := Xml.lineFed m.body
    bodyDigest := Xml.lineFed m.bodyDigest
    attributesDigest? := m.attributesDigest?.map Xml.lineFed
    attributes := m.attributes.map AttributeValue.lineFed
    bookkeeping := m.bookkeeping.map Xml.lineFed }

namespace Xml

theorem mem_lineFeeds {c : Char} {cs : List Char} (h : c ∈ lineFeeds cs) : c = '\n' ∨ c ∈ cs := by
  induction cs using lineFeeds.induct with
  | case1 rest ih =>
      rw [lineFeeds, List.mem_cons] at h
      rcases h with h | h
      · exact Or.inl h
      · exact (ih h).imp_right fun hmem => by simp [hmem]
  | case2 rest hnext ih =>
      rw [lineFeeds_return (head?_ne_of_not_cons hnext), List.mem_cons] at h
      rcases h with h | h
      · exact Or.inl h
      · exact (ih h).imp_right fun hmem => by simp [hmem]
  | case3 d rest _ hreturn ih =>
      rw [lineFeeds_cons hreturn, List.mem_cons] at h
      rcases h with h | h
      · exact Or.inr (by simp [h])
      · exact (ih h).imp_right fun hmem => by simp [hmem]
  | case4 => cases h

theorem bare_lineFed {text : String} (h : Bare text) : Bare (lineFed text) := by
  intro c hc
  rw [toList_lineFed] at hc
  rcases mem_lineFeeds hc with rfl | hmem
  · decide
  · exact h c hmem

/-- The characters of digits are no line ends. -/
theorem return_notMem_of_isBareChar {cs : List Char} (h : ∀ c ∈ cs, isBareChar c = true) :
    '\r' ∉ cs := by
  intro hmem
  exact absurd (h _ hmem) (by decide)

theorem lineFed_base64 (bytes : List UInt8) : lineFed (Base64.encode bytes) = Base64.encode bytes :=
  lineFed_eq_self_iff.mpr (return_notMem_of_isBareChar (isBareChar_base64 bytes))

theorem lineFed_digest (body : String) : lineFed (Digest.ofBody body) = Digest.ofBody body :=
  lineFed_eq_self_iff.mpr (return_notMem_of_isBareChar (isBareChar_hex _))

theorem forall₂_lines_map {α : Type} {f g : α → Xml} {as : List α} (h : ∀ a ∈ as, Lines (f a) (g a)) :
    List.Forall₂ Lines (as.map f) (as.map g) := by
  rw [List.forall₂_map_left_iff, List.forall₂_map_right_iff, List.forall₂_same]
  exact h

end Xml

theorem Payload.Single.lineFed {p : Payload} (h : p.Single) : p.lineFed.Single := by
  cases h with
  | text value => exact .text _
  | bytes value => exact .bytes _

/-- A legible message is legible line by line. -/
theorem Message.Legible.lineFed {m : Message} (h : m.Legible) : m.lineFed.Legible := by
  refine { id := bare_lineFed h.id, bodyDigest := bare_lineFed h.bodyDigest, keys := ?_,
           attributesDigest := ?_, handle := ?_, single := ?_ }
  · intro e he
    obtain ⟨e', he', rfl⟩ := List.mem_map.mp he
    exact h.keys e' he'
  · intro digest hdigest
    obtain ⟨digest', hdigest', rfl⟩ := Option.map_eq_some_iff.mp hdigest
    exact bare_lineFed (h.attributesDigest digest' hdigest')
  · show (m.receiptHandle?.map Xml.lineFed).isSome
    rw [Option.isSome_map]
    exact h.handle
  · intro e he
    obtain ⟨e', he', rfl⟩ := List.mem_map.mp he
    exact (h.single e' he').lineFed

/-- **Unbroken.** No key of the message has a carriage return in it. -/
structure Message.Unbroken (m : Message) : Prop where
  bookkeeping : ∀ e ∈ m.bookkeeping.entries, '\r' ∉ e.1.toList
  attributes : ∀ e ∈ m.attributes.entries, '\r' ∉ e.1.toList

theorem lines_namedText {name : String} (h : '\r' ∉ name.toList) (value : String) :
    Lines (namedTextXml name value) (namedTextXml name (Xml.lineFed value)) := by
  have hplain : '\r' ∉ "Name".toList := by simp
  have hname := Lines.field hplain name
  rw [lineFed_eq_self_iff.mpr h] at hname
  exact .node (by simp) (.cons hname (.cons (.leaf (by simp) value) .nil))

theorem Payload.lines (p : Payload) : List.Forall₂ Lines p.toXml p.lineFed.toXml := by
  have hbytes : ∀ tag : String, '\r' ∉ tag.toList → ∀ b : List UInt8,
      Lines (.node tag [.verbatim (Base64.encode b)]) (.node tag [.verbatim (Base64.encode b)]) := by
    intro tag htag b
    have hfield := Lines.field htag (Base64.encode b)
    rwa [lineFed_base64] at hfield
  cases p with
  | text value => exact .cons (.leaf (by simp) value) .nil
  | bytes value => exact .cons (hbytes "BinaryValue" (by simp) value) .nil
  | texts values =>
      rw [lineFed, toXml, toXml, List.map_map]
      exact forall₂_lines_map fun value _ => .leaf (by simp) value
  | blobs values => exact forall₂_lines_map fun value _ => hbytes "BinaryListValue" (by simp) value

theorem AttributeValue.lines {name : String} (h : '\r' ∉ name.toList) (value : AttributeValue) :
    Lines (value.toXml name) (value.lineFed.toXml name) := by
  have hplain : '\r' ∉ "Name".toList := by simp
  have hname := Lines.leaf hplain name
  rw [lineFed_eq_self_iff.mpr h] at hname
  have hvalue : Lines (.node "Value" (.leaf "DataType" value.dataType :: value.payload.toXml))
      (.node "Value" (.leaf "DataType" value.lineFed.dataType :: value.lineFed.payload.toXml)) :=
    .node (by simp) (.cons (.leaf (by simp) _) value.payload.lines)
  exact .node (by simp) (.cons hname (.cons hvalue .nil))

/-- **A message line by line.** -/
theorem Message.lines {m : Message} (h : m.Unbroken) : Lines m.toXml m.lineFed.toXml := by
  have hhandle : (m.receiptHandle?.map Xml.lineFed).getD "" =
      Xml.lineFed (m.receiptHandle?.getD "") := by
    cases m.receiptHandle? <;> rfl
  have hfirst : List.Forall₂ Lines
      [.node "MessageId" [.verbatim m.id], .leaf "ReceiptHandle" (m.receiptHandle?.getD ""),
        .node "MD5OfBody" [.verbatim m.bodyDigest], .leaf "Body" m.body]
      [.node "MessageId" [.verbatim m.lineFed.id],
        .leaf "ReceiptHandle" (m.lineFed.receiptHandle?.getD ""),
        .node "MD5OfBody" [.verbatim m.lineFed.bodyDigest], .leaf "Body" m.lineFed.body] := by
    rw [show m.lineFed.receiptHandle?.getD "" = _ from hhandle]
    exact .cons (.field (by simp) _) (.cons (.leaf (by simp) _)
      (.cons (.field (by simp) _) (.cons (.leaf (by simp) _) .nil)))
  have hbooks : List.Forall₂ Lines (m.bookkeeping.entries.map fun e => namedTextXml e.1 e.2)
      (m.lineFed.bookkeeping.entries.map fun e => namedTextXml e.1 e.2) := by
    show List.Forall₂ Lines _ ((m.bookkeeping.entries.map fun e => (e.1, Xml.lineFed e.2)).map _)
    rw [List.map_map]
    exact forall₂_lines_map fun e he => lines_namedText (h.bookkeeping e he) e.2
  have hdigest : List.Forall₂ Lines (attributesDigestXml m.attributesDigest?)
      (attributesDigestXml m.lineFed.attributesDigest?) := by
    show List.Forall₂ Lines _ ((m.attributesDigest?.map Xml.lineFed).toList.map _)
    rw [Option.toList_map, List.map_map]
    exact forall₂_lines_map fun digest _ => .field (by simp) digest
  have hattributes : List.Forall₂ Lines (m.attributes.entries.map fun e => e.2.toXml e.1)
      (m.lineFed.attributes.entries.map fun e => e.2.toXml e.1) := by
    show List.Forall₂ Lines _ ((m.attributes.entries.map fun e => (e.1, e.2.lineFed)).map _)
    rw [List.map_map]
    exact forall₂_lines_map fun e he => AttributeValue.lines (h.attributes e he) e.2
  exact .node (by simp)
    (List.rel_append (List.rel_append (List.rel_append hfirst hbooks) hdigest) hattributes)

/-- **The document of a receive line by line.** -/
theorem lines_messages {given : List Message} (h : ∀ m ∈ given, m.Unbroken) (requestId : String) :
    Lines ((Reply.messages given).toXml "ReceiveMessage" requestId)
      ((Reply.messages (given.map Message.lineFed)).toXml "ReceiveMessage" (lineFed requestId)) := by
  have hmetadata : Lines
      (.node "ResponseMetadata"
        [.text "\n    ", .node "RequestId" [.verbatim requestId], .text "\n  "])
      (.node "ResponseMetadata"
        [.text "\n    ", .node "RequestId" [.verbatim (lineFed requestId)], .text "\n  "]) :=
    .node (by simp) (.cons (.text (by simp)) (.cons (.field (by simp) requestId)
      (.cons (.text (by simp)) .nil)))
  have hmessages : List.Forall₂ Lines (given.map Message.toXml)
      ((given.map Message.lineFed).map Message.toXml) := by
    rw [List.map_map]
    exact forall₂_lines_map fun m hm => Message.lines (h m hm)
  have hresult : Lines (.node "ReceiveMessageResult" (given.map Message.toXml))
      (.node "ReceiveMessageResult" ((given.map Message.lineFed).map Message.toXml)) :=
    .node (by simp) hmessages
  have hpieces : List.Forall₂ Lines (resultPieces given requestId)
      (resultPieces (given.map Message.lineFed) (lineFed requestId)) := by
    refine List.rel_append ?_ (.cons (.text (by simp)) (.cons hmetadata
      (.cons (.text (by simp)) .nil)))
    cases given with
    | nil => exact .nil
    | cons first rest => exact .cons (.text (by simp)) (.cons hresult .nil)
  rw [toXml_messages, toXml_messages]
  exact .element (by decide) fun rest _ => Lines.writeAll hpieces rest

/-! ## All receives -/

/-- The keys that receivers see are names, and these have no line ends. -/
theorem Accepted.Seen.unbroken {a : Accepted} {first : Int} {k : Nat} {m : Message}
    (h : a.Seen first k m) : m.Unbroken := by
  obtain ⟨typed, htyped, hattributes⟩ := h.attributes
  obtain ⟨count, hbooks, -⟩ := h.bookkeeping
  refine ⟨?_, ?_⟩
  · rw [hbooks]
    intro e he
    obtain ⟨key, heq⟩ := Books.exists_key he
    rw [heq]
    cases key <;> decide
  · rw [hattributes]
    intro e he hmem
    obtain ⟨accepted, haccepted, rfl⟩ := (OutboundMessage.mem_attributeDict_iff htyped).mp he
    have hsound := (OfferedAttribute.acceptAll_ok htyped).2.2 accepted haccepted
    exact absurd (hsound.named.characters _ hmem) (by decide)

section Delivered

variable {turns : List Turn} {given : List Message} {document : String}

/-- **What is read of a receive** once line ends have become line feeds. -/
theorem Delivered.received?_lineFeeds (h : Delivered turns given document) :
    received? (lineFeeds document.toList) = some (given.map Message.lineFed) := by
  obtain ⟨requestId, hid, rfl⟩ := h.exists_reply
  have hunbroken : ∀ m ∈ given, m.Unbroken := by
    intro m hm
    obtain ⟨a, -, x, first, k, -, hseen, -⟩ := h.exists_seen m hm
    exact hseen.unbroken
  have hlegible : ∀ m ∈ given.map Message.lineFed, m.Legible := by
    intro m hm
    obtain ⟨m', hm', rfl⟩ := List.mem_map.mp hm
    exact (h.legible m' hm').lineFed
  -- the document of the messages as sent becomes the document of the messages with line feeds
  rw [(lines_messages hunbroken requestId).document]
  exact received?_document hlegible (bare_lineFed hid)

/-- **Read back.** What is read of a message that was sent: its body, the digest of the body as it was sent,
    and under their names the texts of its attributes. A text comes back as it was sent if there is no
    carriage return in it, and only then. -/
structure Accepted.ReadBack (a : Accepted) (r : Message) : Prop where
  body : ∃ body, a.message.body? = some body ∧ r.body = lineFed body ∧
    (r.body = body ↔ '\r' ∉ body.toList) ∧ r.bodyDigest = Digest.ofBody body
  texts : ∀ offer ∈ a.message.attributes, ∀ value text, offer.value? = some value →
    value.text? = some text → text ≠ "" → ∃ dataType read,
      r.attributes.find? offer.name = some ⟨dataType, .text read⟩ ∧ read = lineFed text ∧
        (read = text ↔ '\r' ∉ text.toList)

/-- What a receiver sees of a message is read back from its document. -/
theorem Accepted.Seen.readBack {a : Accepted} {x : Store.Sending} {first : Int} {k : Nat} {m : Message}
    (h : a.Seen first k m) (hput : a.Put x) : a.ReadBack m.lineFed := by
  obtain ⟨_, _, body, -, -, hbody, -, hmessage⟩ := OutboundMessage.prepare_ok hput.prepared
  obtain ⟨typed, htyped, hattributes⟩ := h.attributes
  have hsame : m.body = body := Option.some.inj (h.body.symm.trans hbody.offered)
  have hdigest : m.bodyDigest = Digest.ofBody body := by
    rw [h.bodyDigest, hput.receipt, Receipt.ofMessage, hmessage]
  refine ⟨⟨body, hbody.offered, ?_, ?_, ?_⟩, ?_⟩
  · rw [← hsame]
    rfl
  · rw [← hsame]
    exact lineFed_eq_self_iff
  · show lineFed m.bodyDigest = _
    rw [hdigest, lineFed_digest]
  · intro offer hoffer value text hvalue htext hnonempty
    obtain ⟨accepted, hmem, haccepted⟩ := OfferedAttribute.exists_accepted htyped offer hoffer
    rw [hvalue] at haccepted
    obtain ⟨offered, kind, bytes?, hoffered, hpayload⟩ := OfferedAttribute.exists_payload haccepted
    cases hoffered
    have htextual := OfferedAttribute.payload_of_text hpayload htext hnonempty
    have hfind : m.attributes.find? offer.name = some accepted.value := by
      rw [hattributes, ← Dict.mem_entries_iff]
      exact (OutboundMessage.mem_attributeDict_iff htyped).mpr ⟨_, hmem, rfl⟩
    have hread := Dict.find?_map AttributeValue.lineFed m.attributes hfind
    refine ⟨lineFed accepted.value.dataType, lineFed text, ?_, rfl, lineFed_eq_self_iff⟩
    show (m.attributes.map AttributeValue.lineFed).find? offer.name = _
    rw [hread, AttributeValue.lineFed, htextual]
    rfl

/-- **Which texts come back.** A reader that takes line ends for line feeds before it reads the document of a
    receive finds a message for each that was handed out. Each goes back to one that was sent, and of its
    body and its attributes just those texts come back as they were sent that have no carriage return. -/
theorem Delivered.read_asSent_iff (h : Delivered turns given document) :
    ∃ read, received? (lineFeeds document.toList) = some read ∧
      List.Forall₂ (fun m r => ∃ a ∈ accepted turns, a.receipt.messageId = m.id ∧ a.ReadBack r)
        given read := by
  refine ⟨given.map Message.lineFed, h.received?_lineFeeds, ?_⟩
  rw [List.forall₂_map_right_iff, List.forall₂_same]
  intro m hm
  obtain ⟨a, ha, x, first, k, hput, hseen, -⟩ := h.exists_seen m hm
  exact ⟨a, ha, hseen.id.symm, hseen.readBack hput⟩

end Delivered

/-- A queue with a message of two lines, with an attribute whose lines end in other ways. -/
def twoLines : List (Occasion × Request) :=
  [(Sample.occasion, .createQueue (some "q") []),
    (Sample.occasion, .sendMessage (Sample.locator "q")
      ⟨some "a\nb", none, [⟨"s", some ⟨"String", some "1\r\n2\r", none, [], []⟩⟩]⟩)]

/-- The body comes back as it was sent, and the attribute with the line ends of the body. -/
theorem read_asSent_twoLines :
    ∃ turns m r document, Delivered turns [m] document ∧
      received? (lineFeeds document.toList) = some [r] ∧ r.body = "a\nb" ∧
      ∃ dataType, r.attributes.find? "s" = some ⟨dataType, .text "1\n2\n"⟩ := by
  obtain ⟨m, a, b', served, haccepted, hmessage⟩ : ∃ m a b',
      ((Request.receiveMessages "/123456789012/q" none).serve Sample.desk Sample.caller
        Sample.occasion).runOn
          (serveAll Sample.desk Sample.caller (.reliable .empty) twoLines).2 =
        (.ok (.messages [m]), b') ∧
      accepted (serveAll Sample.desk Sample.caller (.reliable .empty) twoLines).1 = [a] ∧
      a.message = ⟨some "a\nb", none, [⟨"s", some ⟨"String", some "1\r\n2\r", none, [], []⟩⟩]⟩ :=
    ⟨_, _, _, rfl, rfl, rfl⟩
  have hall : ∀ r ∈ twoLines, r.1 = Sample.occasion := by
    simp [twoLines]
  obtain ⟨document, hdelivered⟩ := Sample.exists_delivered hall served
  obtain ⟨read, hread, hback⟩ := Delivered.read_asSent_iff hdelivered
  cases hback with
  | @cons _ r _ _ first rest =>
      cases rest
      obtain ⟨a', ha, -, hback⟩ := first
      rw [haccepted, List.mem_singleton] at ha
      subst ha
      obtain ⟨body, hbody, -, hsame, -⟩ := hback.body
      rw [hmessage] at hbody
      cases hbody
      have hoffer : (⟨"s", some ⟨"String", some "1\r\n2\r", none, [], []⟩⟩ : OfferedAttribute) ∈
          a'.message.attributes := by
        rw [hmessage]
        exact List.mem_singleton_self _
      obtain ⟨dataType, text, hfind, rfl, -⟩ :=
        hback.texts _ hoffer _ "1\r\n2\r" rfl rfl (by decide)
      have htext : lineFed "1\r\n2\r" = "1\n2\n" := by decide
      rw [htext] at hfind
      exact ⟨_, m, r, document, hdelivered, hread, hsame.mpr (by decide), dataType, hfind⟩

/-- A queue with a message that has a carriage return in its body. -/
def brokenBody : List (Occasion × Request) :=
  [(Sample.occasion, .createQueue (some "q") []),
    (Sample.occasion, .sendMessage (Sample.locator "q") ⟨some "a\rb", none, []⟩)]

/-- The body does not come back as it was sent, nor with its digest. -/
theorem read_asSent_brokenBody :
    ∃ m r document,
      Delivered (serveAll Sample.desk Sample.caller (.reliable .empty) brokenBody).1 [m] document ∧
      m.body = "a\rb" ∧ received? (lineFeeds document.toList) = some [r] ∧ r.body = "a\nb" ∧
      Digest.ofBody r.body ≠ r.bodyDigest := by
  obtain ⟨m, b', served, hbody, hdigest⟩ : ∃ m b',
      ((Request.receiveMessages "/123456789012/q" none).serve Sample.desk Sample.caller
        Sample.occasion).runOn
          (serveAll Sample.desk Sample.caller (.reliable .empty) brokenBody).2 =
        (.ok (.messages [m]), b') ∧ m.body = "a\rb" ∧ m.bodyDigest = Digest.ofBody "a\rb" :=
    ⟨_, _, rfl, rfl, rfl⟩
  have hall : ∀ r ∈ brokenBody, r.1 = Sample.occasion := by
    simp [brokenBody]
  obtain ⟨document, hdelivered⟩ := Sample.exists_delivered hall served
  have hread : m.lineFed.body = "a\nb" := by
    show lineFed m.body = _
    rw [hbody]
    decide
  have hsent : m.lineFed.bodyDigest = Digest.ofBody "a\rb" := by
    show lineFed m.bodyDigest = _
    rw [hdigest, lineFed_digest]
  refine ⟨m, m.lineFed, document, hdelivered, hbody, hdelivered.received?_lineFeeds, hread, ?_⟩
  rw [hread, hsent]
  decide +kernel

end QueueService
