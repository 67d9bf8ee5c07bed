import QueueService.Error.Report
import QueueService.Query.Request
import QueueService.Text.Base64

/-!
# Writing replies

Replies as XML documents. What a reply says stands in an element of its own, which is left out when
there is nothing to say.
-/

namespace QueueService

/-! ## Pieces -/

/-- The element of a digest of attributes, if there is one. -/
def attributesDigestXml (digest? : Option String) : List Xml :=
  digest?.toList.map fun digest => .node "MD5OfMessageAttributes" [.verbatim digest]

/-- The elements of a receipt. -/
def Receipt.toXml (r : Receipt) : List Xml :=
  [.node "MessageId" [.verbatim r.messageId],
    .node "MD5OfMessageBody" [.verbatim r.bodyDigest]] ++ attributesDigestXml r.attributesDigest?

/-- The elements of what became of a batch: what was sent, then what failed. -/
def BatchOutcome.toXml (outcome : BatchOutcome) : List Xml :=
  (outcome.successful.map fun (id, receipt) =>
    .node "SendMessageBatchResultEntry" (.leaf "Id" id :: receipt.toXml)) ++
  outcome.failed.map fun (id, e) =>
    .node "BatchResultErrorEntry"
      [.leaf "Id" id,
        .node "SenderFault" [.verbatim (toString e.code.isSenderFault)],
        .node "Code" [.verbatim e.code.wire],
        .leaf "Message" e.message]

/-- The element of a named text whose name needs no escape. -/
def namedTextXml (name value : String) : Xml :=
  .node "Attribute" [.node "Name" [.verbatim name], .leaf "Value" value]

/-- The elements of a payload. -/
def Payload.toXml : Payload → List Xml
  | text s => [.leaf "StringValue" s]
  | bytes b => [.node "BinaryValue" [.verbatim (Base64.encode b)]]
  | texts values => values.map fun s => .leaf "StringListValue" s
  | blobs values => values.map fun b => .node "BinaryListValue" [.verbatim (Base64.encode b)]

/-- The element of a message attribute. -/
def AttributeValue.toXml (name : String) (value : AttributeValue) : Xml :=
  .node "MessageAttribute"
    [.leaf "Name" name, .node "Value" (.leaf "DataType" value.dataType :: value.payload.toXml)]

/-- The element of a message. -/
def Message.toXml (m : Message) : Xml :=
  .node "Message" <|
    [.node "MessageId" [.verbatim m.id],
      .leaf "ReceiptHandle" (m.receiptHandle?.getD ""),
      .node "MD5OfBody" [.verbatim m.bodyDigest],
      .leaf "Body" m.body] ++
    m.bookkeeping.entries.map (fun e => namedTextXml e.1 e.2) ++
    attributesDigestXml m.attributesDigest? ++
    m.attributes.entries.map fun e => e.2.toXml e.1

/-! ## Replies -/

namespace Reply

/-- The elements of what a reply says. -/
def content : Reply → List Xml
  | address url => [.leaf "QueueUrl" url]
  | addresses urls => urls.map fun url => .leaf "QueueUrl" url
  | description attributes =>
    attributes.entries.map fun e => namedTextXml e.1.toText e.2
  | sent receipt => receipt.toXml
  | batch outcome => outcome.toXml
  | messages received => received.map Message.toXml
  | done => []

/-- The document of a reply to an action. -/
def toXml (action requestId : String) (reply : Reply) : Xml :=
  let result :=
    if reply.content.isEmpty then []
    else [.text "\n  ", .node (action ++ "Result") reply.content]
  .element (action ++ "Response") [("xmlns", ErrorReport.xmlNamespace)] <|
    result ++
    [.text "\n  ",
      .node "ResponseMetadata"
        [.text "\n    ", .node "RequestId" [.verbatim requestId], .text "\n  "],
      .text "\n"]

end Reply

end QueueService
