import QueueService.Proofs.Acceptance
import QueueService.Proofs.Address
import QueueService.Proofs.Document
import QueueService.Proofs.Redelivery
import QueueService.Proofs.RedrivePolicy
import QueueService.Proofs.Setting

/-!
# Presentable replies

In every session that was well given, every reply is presentable. Receipts are made of fresh identifiers and
digests. What is handed out goes back to a message that was prepared, and so to texts that passed their
checks. What is told of a queue goes back to the request that made it, where each text is a number as it was
checked, a canonical document or an access policy. Of the callers' texts only the access policies, the data
types and the wording of failures are left, which nobody has checked.

* `Session.presentable` — the statement for all requests.
-/

namespace QueueService

open Operation Service Store Xml

/-- **Well given.** What a call takes from the service itself can be shown: the endpoint, the account, the
    region and the handles are legal texts, and the fresh identifiers of messages need no escape. -/
structure WellGiven (desk : Desk) (caller : Caller) (occasion : Occasion) : Prop where
  endpoint : Legal desk.addresses.endpoint
  account : Legal caller.account
  region : Legal caller.region
  messageIds : ∀ i, Bare (occasion.messageIds i)
  handles : ∀ i, Legal (occasion.handles i)

/-- The call of the turn was well given. -/
def Turn.WellGiven (turn : Turn) : Prop :=
  QueueService.WellGiven turn.desk turn.caller turn.occasion

theorem serveAll_wellGiven {desk : Desk} {caller : Caller} {b : Backend}
    {requests : List (Occasion × Request)} (h : ∀ r ∈ requests, WellGiven desk caller r.1) :
    ∀ turn ∈ (serveAll desk caller b requests).1, turn.WellGiven := by
  induction requests generalizing b with
  | nil => exact List.forall_mem_nil _
  | cons first rest ih =>
      rw [List.forall_mem_cons] at h
      exact List.forall_mem_cons.mpr ⟨h.1, ih h.2⟩

/-! ## Receipts -/

section Send

variable {desk : Desk} {limits : Limits} {caller : Caller} {occasion : Occasion} {queue : Queue}
  {locator : String} {m : OutboundMessage} {b b' : Backend}

/-- The receipt of a prepared message shows its identifier and two digests. -/
theorem OutboundMessage.presentable_receipt {sender id : String} {now : Int} {message : Message}
    (h : m.prepare limits sender queue now id = .ok message) (hid : Bare id) :
    (Receipt.ofMessage message).Presentable := by
  obtain ⟨delay, accepted, body, -, -, -, -, rfl⟩ := prepare_ok h
  refine ⟨hid, bare_hex _, ?_⟩
  intro digest hdigest
  simp only [Receipt.ofMessage, Option.mem_def] at hdigest
  split at hdigest
  · cases hdigest
  · cases hdigest
    exact bare_hex _

namespace Service

theorem presentable_sendTo {receipt : Receipt} (hids : ∀ i, Bare (occasion.messageIds i))
    (h : (sendTo limits caller occasion queue m).runOn b = (.ok receipt, b')) :
    receipt.Presentable := by
  obtain ⟨message, q, hprepare, rfl, -, -⟩ := sendTo_ok h
  exact OutboundMessage.presentable_receipt hprepare (hids 0)

theorem presentable_sendMessage {receipt : Receipt} (hids : ∀ i, Bare (occasion.messageIds i))
    (h : (sendMessage desk caller occasion locator m).runOn b = (.ok receipt, b')) :
    receipt.Presentable := by
  unfold sendMessage at h
  obtain ⟨queue, b₁, -, h⟩ := bind_ok h
  exact presentable_sendTo hids h

/-- Every entry of a batch is told of, those that were sent with a presentable receipt. -/
theorem sendEntries_results {entries : List BatchEntry} {k : Nat} {outcome : BatchOutcome}
    (hids : ∀ i, Bare (occasion.messageIds i))
    (h : (sendEntries desk.limits caller occasion queue k entries).run b = (outcome, b')) :
    ∃ results, outcome = .ofResults results ∧ results.map (·.1) = entries.map (·.id) ∧
      ∀ r ∈ results, ∀ receipt, r.2 = .ok receipt → receipt.Presentable := by
  induction entries generalizing k b b' outcome with
  | nil =>
      cases h
      exact ⟨[], rfl, rfl, List.forall_mem_nil _⟩
  | cons entry rest ih =>
      rcases hsend : (sendTo desk.limits caller (occasion.from k) queue entry.message).runOn b
        with ⟨sent, b₁⟩
      rcases hrest : (sendEntries desk.limits caller occasion queue (k + 1) rest).run b₁
        with ⟨others, b₂⟩
      obtain ⟨results, rfl, hnames, hreceipts⟩ := ih hrest
      obtain ⟨rfl, rfl⟩ := Prod.mk.inj (h.symm.trans (sendEntries_cons hsend hrest))
      refine ⟨(entry.id, sent) :: results, rfl, congrArg _ hnames, ?_⟩
      rw [List.forall_mem_cons]
      refine ⟨?_, hreceipts⟩
      rintro receipt rfl
      exact presentable_sendTo (fun i => hids (k + i)) hsend

theorem presentable_sendBatch {entries : List BatchEntry} {outcome : BatchOutcome}
    (hids : ∀ i, Bare (occasion.messageIds i))
    (h : (sendBatch desk caller occasion locator entries).runOn b = (.ok outcome, b')) :
    (Reply.batch outcome).Presentable := by
  unfold sendBatch at h
  obtain ⟨_, _, hverdict, h⟩ := bind_ok h
  obtain ⟨hcheck, rfl⟩ := ofExcept_ok hverdict
  obtain ⟨queue, b₁, -, h⟩ := bind_ok h
  rw [runOn_lift] at h
  obtain ⟨houtcome, hbackend⟩ := Prod.mk.inj h
  obtain ⟨results, rfl, hnames, hreceipts⟩ :=
    sendEntries_results hids (Prod.ext (Except.ok.inj houtcome) hbackend)
  -- whatever became of an entry, its identifier is one of the batch, which were all checked
  have hlegal : ∀ id ∈ (BatchOutcome.ofResults results).ids, Legal id := by
    intro id hmem
    rw [(BatchOutcome.ids_ofResults results).mem_iff, hnames] at hmem
    have hid := isBatchEntryId_of_checkEntryIds (checkBatch_ok hcheck) id hmem
    exact (bare_of_isPlain (Alphabet.isPlain_of_isQueueName hid)).legal
  refine ⟨?_, ?_⟩
  · intro s hs
    refine ⟨hlegal s.1 (List.mem_append_left _ (List.mem_map_of_mem hs)), ?_⟩
    obtain ⟨⟨id, sent⟩, hr, heq⟩ := List.mem_filterMap.mp hs
    obtain ⟨receipt, hsent, rfl⟩ := Option.map_eq_some_iff.mp heq
    cases sent with
    | error e => cases hsent
    | ok receipt' =>
        cases hsent
        exact hreceipts _ hr receipt rfl
  · intro f hf
    exact hlegal f.1 (List.mem_append_right _ (List.mem_map_of_mem hf))

end Service

end Send

/-! ## What was taken -/

theorem mem_acceptedEntries {limits : Limits} {caller : Caller} {occasion : Occasion}
    {answers : List (String × Receipt)} {k : Nat} {entries : List BatchEntry} {a : Accepted}
    (h : a ∈ acceptedEntries limits caller occasion answers k entries) :
    a.sender = caller.account ∧ ∃ id, (id, a.receipt) ∈ answers := by
  induction entries generalizing k with
  | nil => cases h
  | cons entry rest ih =>
      rw [acceptedEntries, List.mem_append, Option.mem_toList] at h
      rcases h with h | h
      · obtain ⟨receipt, hlookup, rfl⟩ := Option.map_eq_some_iff.mp h
        obtain ⟨front, back, hanswers, -⟩ := List.lookup_eq_some_iff.mp hlookup
        rw [hanswers]
        exact ⟨rfl, entry.id, List.mem_append_right _ List.mem_cons_self⟩
      · exact ih h

/-- The messages of a turn were sent by its caller. -/
theorem Turn.sender_accepts (turn : Turn) : ∀ a ∈ turn.accepts, a.sender = turn.caller.account := by
  unfold accepts
  split
  · exact List.forall_mem_singleton.mpr rfl
  · exact fun a ha => (mem_acceptedEntries ha).1
  · exact List.forall_mem_nil _

/-- A message that was taken has a presentable receipt. -/
theorem Turn.presentable_receipts {turn : Turn} {b b' : Backend}
    (hids : ∀ i, Bare (turn.occasion.messageIds i))
    (served : (turn.request.serve turn.desk turn.caller turn.occasion).runOn b = (turn.outcome, b')) :
    ∀ a ∈ turn.accepts, a.receipt.Presentable := by
  obtain ⟨desk, caller, occasion, request, outcome⟩ := turn
  cases outcome with
  | error e => cases request <;> exact List.forall_mem_nil _
  | ok reply =>
      cases request with
      | sendMessage locator m =>
          obtain ⟨receipt, hrun, rfl⟩ := map_ok served
          exact List.forall_mem_singleton.mpr (presentable_sendMessage hids hrun)
      | sendBatch locator entries =>
          obtain ⟨outcome, hrun, rfl⟩ := map_ok served
          intro a ha
          obtain ⟨-, id, hmem⟩ := mem_acceptedEntries ha
          exact (presentable_sendBatch hids hrun).1 _ hmem |>.2
      | createQueue | queueUrl | listQueues | describeQueue | purgeQueue | deleteQueue
      | receiveMessages | deleteMessage => exact List.forall_mem_nil _

/-- Each turn of a session was served. -/
theorem Session.exists_served {b₀ b : Backend} {turns : List Turn} (session : Session b₀ turns b) :
    ∀ turn ∈ turns, ∃ b₁ b₂,
      (turn.request.serve turn.desk turn.caller turn.occasion).runOn b₁ = (turn.outcome, b₂) := by
  induction session with
  | start => exact List.forall_mem_nil _
  | next past served ih =>
      rw [List.forall_mem_append, List.forall_mem_singleton]
      exact ⟨ih, _, _, served⟩

/-- All receipts of a session are presentable where its identifiers need no escape. -/
theorem Session.presentable_receipts {b₀ b : Backend} {turns : List Turn}
    (session : Session b₀ turns b)
    (hids : ∀ turn ∈ turns, ∀ i, Bare (turn.occasion.messageIds i)) :
    ∀ a ∈ accepted turns, a.receipt.Presentable := by
  intro a ha
  obtain ⟨turn, hturn, hmem⟩ := List.mem_flatMap.mp ha
  obtain ⟨b₁, b₂, served⟩ := session.exists_served turn hturn
  exact turn.presentable_receipts (hids turn hturn) served a hmem

/-! ## What is handed out -/

/-- Names and values that were accepted are legal texts. -/
theorem OfferedAttribute.legal_accepted {limits : Limits} {offers : List OfferedAttribute}
    {typed : List (String × AcceptedAttribute)} (h : acceptAll limits [] offers = .ok typed)
    {a : String × AcceptedAttribute} (ha : a ∈ typed) :
    Legal a.1 ∧ ∀ s ∈ a.2.value.payload.toldTexts, Legal s := by
  have hsound := (acceptAll_ok h).2.2 a ha
  refine ⟨legal_of_attributeNameChars hsound.named.characters, ?_⟩
  obtain ⟨offer, -, hvalue⟩ := exists_offer h a ha
  obtain ⟨offered, kind, bytes?, -, hpayload⟩ := exists_payload hvalue
  cases hsingle : a.2.value.payload with
  | text value =>
      rw [hsingle] at hpayload
      exact List.forall_mem_singleton.mpr (payload_text hpayload)
  | bytes value => exact List.forall_mem_nil _
  | texts values | blobs values =>
      have hone := hsound.single
      rw [hsingle] at hone
      cases hone

theorem Books.mem_summary {sender : String} {sent first : Int} {count : Nat} {e : String × String}
    (h : e ∈ (summary sender sent first count).entries) :
    e ∈ [(SystemAttribute.approximateFirstReceiveTimestamp.key, toString first),
      (SystemAttribute.approximateReceiveCount.key, toString count),
      (SystemAttribute.senderId.key, sender), (SystemAttribute.sentTimestamp.key, toString sent)] := by
  have hnodup : [SystemAttribute.approximateFirstReceiveTimestamp.key,
      SystemAttribute.approximateReceiveCount.key, SystemAttribute.senderId.key,
      SystemAttribute.sentTimestamp.key].Nodup := by decide
  exact (Dict.entries_ofList_perm (by exact hnodup)).mem_iff.mp h

/-- The keys that receivers see are those of system attributes. -/
theorem Books.exists_key {sender : String} {sent first : Int} {count : Nat} {e : String × String}
    (h : e ∈ (summary sender sent first count).entries) : ∃ a : SystemAttribute, e.1 = a.key := by
  have hmem := mem_summary h
  simp only [List.mem_cons, List.not_mem_nil, or_false] at hmem
  rcases hmem with rfl | rfl | rfl | rfl
  · exact ⟨.approximateFirstReceiveTimestamp, rfl⟩
  · exact ⟨.approximateReceiveCount, rfl⟩
  · exact ⟨.senderId, rfl⟩
  · exact ⟨.sentTimestamp, rfl⟩

theorem SystemAttribute.bare_key (a : SystemAttribute) : Bare a.key := by
  cases a <;> decide

theorem Books.legal_summary {sender : String} (hsender : Legal sender) (sent first : Int)
    (count : Nat) : ∀ e ∈ (summary sender sent first count).entries, Legal e.2 := by
  have hnumber : ∀ n : Int, Legal (toString n) := fun n => (bare_toString_int n).legal
  intro e he
  have hmem := mem_summary he
  simp only [List.mem_cons, List.not_mem_nil, or_false] at hmem
  rcases hmem with rfl | rfl | rfl | rfl
  · exact hnumber first
  · exact (bare_toString_nat count).legal
  · exact hsender
  · exact hnumber sent

/-- What a receiver sees of a message is writable if the receipt for it was presentable. -/
theorem Accepted.Seen.writable {a : Accepted} {first : Int} {k : Nat} {m : Message}
    (h : a.Seen first k m) (hreceipt : a.receipt.Presentable) : m.Writable := by
  obtain ⟨count, hbooks, -⟩ := h.bookkeeping
  refine { id := ?_, bodyDigest := ?_, keys := ?_, attributesDigest := ?_ }
  · rw [h.id]
    exact hreceipt.messageId
  · rw [h.bodyDigest]
    exact hreceipt.bodyDigest
  · rw [hbooks]
    intro e he
    obtain ⟨key, heq⟩ := Books.exists_key he
    rw [heq]
    exact key.bare_key
  · rw [h.attributesDigest]
    exact hreceipt.attributesDigest

/-- **What is handed out is presentable,** as it was put into the queue, and with a legal handle. -/
theorem Accepted.Put.presentable {a : Accepted} {x : Sending} {log : List Step} {before : Outs} {n : Nat}
    {now : Int} {m : Message} (hput : a.Put x) (h : Handed log before n now m x)
    (hsender : Legal a.sender) (hreceipt : a.receipt.Presentable)
    (hhandle : Legal (m.receiptHandle?.getD "")) : m.stripInternal.Presentable := by
  obtain ⟨hseen, -⟩ := hput.seen h rfl
  obtain ⟨_, _, body, -, -, hbody, -, -⟩ := OutboundMessage.prepare_ok hput.prepared
  obtain ⟨typed, htyped, hattributes⟩ := hseen.attributes
  obtain ⟨count, hbooks, -⟩ := hseen.bookkeeping
  -- what it shows is what was prepared, and that has passed the checks
  have hsame : m.stripInternal.body = body :=
    Option.some.inj (hseen.body.symm.trans hbody.offered)
  have hlegal : ∀ e ∈ m.stripInternal.attributes.entries,
      Legal e.1 ∧ ∀ s ∈ e.2.payload.toldTexts, Legal s := by
    rw [hattributes]
    intro e he
    obtain ⟨offered, hmem, rfl⟩ := (OutboundMessage.mem_attributeDict_iff htyped).mp he
    exact OfferedAttribute.legal_accepted htyped hmem
  have hwritable := hseen.writable hreceipt
  exact
    { id := hwritable.id
      handle := hhandle
      bodyDigest := hwritable.bodyDigest
      body := by
        rw [hsame]
        exact hbody.characters
      bookkeeping := by
        intro e he
        refine ⟨hwritable.keys e he, ?_⟩
        rw [hbooks] at he
        exact Books.legal_summary hsender _ _ _ e he
      attributesDigest := hwritable.attributesDigest
      names := fun e he => (hlegal e he).1
      values := fun e he => (hlegal e he).2 }

/-! ## What is told of a queue -/

/-- **Presentable.** All texts but the access policy are legal. -/
def QueueAttributes.Presentable (attributes : Dict QueueAttribute String) : Prop :=
  ∀ ⦃a text⦄, attributes.find? a = some text → a ≠ .policy → Legal text

namespace QueueAttributes

theorem presentable_standard : Presentable standard := by
  have hall : ∀ e ∈ standard.entries, Legal e.2 := by decide
  intro a text h _
  exact hall (a, text) (Dict.mem_entries_iff.mpr h)

theorem Presentable.insert {attributes : Dict QueueAttribute String} (h : Presentable attributes)
    {a : QueueAttribute} {value : String} (hvalue : a ≠ .policy → Legal value) :
    Presentable (attributes.insert a value) := by
  intro a' text hfind hne
  rw [Dict.find?_insert] at hfind
  split at hfind
  · next heq =>
    cases hfind
    exact hvalue (heq ▸ hne)
  · exact h hfind hne

end QueueAttributes

theorem QueueId.legal_arn {id : QueueId} {region : String} (haccount : Legal id.account)
    (hname : Alphabet.IsPlain id.name) (hregion : Legal region) : Legal (id.arn region).toText :=
  Xml.legal_arn (.literal rfl) (.literal rfl) hregion haccount (bare_of_isPlain hname).legal

namespace Service

section Attributes

variable {desk : Desk} {limits : Limits} {caller : Caller} {attributes result : QueueAttributes}

/-- Setting one attribute keeps all texts legal. -/
theorem Assigned.presentable {s : Store} {a : QueueAttribute} {value : String}
    (h : Assigned limits caller s a value attributes result) (haccount : Legal caller.account)
    (hregion : Legal caller.region) (hbefore : QueueAttributes.Presentable attributes) :
    QueueAttributes.Presentable result := by
  cases h with
  | number range check =>
      obtain ⟨n, hread, -⟩ := QueueSetting.checkNumber_ok check
      exact hbefore.insert fun _ => legal_of_signed? hread
  | policy named => exact hbefore.insert fun hne => absurd named hne
  | redrive named standing =>
      have hvalid := RedrivePolicy.valid_of_parse standing.reads
      refine hbefore.insert fun _ => legal_toDocument (QueueId.legal_arn ?_ ?_ hregion)
      · rw [hvalid.owner]
        exact haccount
      · exact Alphabet.isPlain_of_isQueueName hvalid.name
  | passed => exact hbefore

theorem presentable_setAttributes {supplied : List (String × String)} {b b' : Backend}
    (haccount : Legal caller.account) (hregion : Legal caller.region)
    (hbefore : QueueAttributes.Presentable attributes)
    (h : (setAttributes limits caller attributes supplied).runOn b = (.ok result, b')) :
    QueueAttributes.Presentable result := by
  induction supplied generalizing attributes b with
  | nil =>
      cases h
      exact hbefore
  | cons first rest ih =>
      obtain ⟨changed, b₁, hset, h⟩ := bind_ok h
      obtain ⟨a, -, hassigned⟩ := setAttribute_ok hset
      exact ih (hassigned.presentable haccount hregion hbefore) h

end Attributes

end Service

/-- **Queues can be shown.** A queue has a legal account, a plain name, and presentable attributes. -/
structure Queue.Presentable (queue : Queue) : Prop where
  account : Legal queue.id.account
  name : Alphabet.IsPlain queue.id.name
  attributes : QueueAttributes.Presentable queue.attributes

theorem Queue.Presentable.describe {queue : Queue} (h : queue.Presentable) {region : String}
    (hregion : Legal region) : QueueAttributes.Presentable (queue.describe region) := by
  have harn := QueueId.legal_arn h.account h.name hregion
  exact ((h.attributes.insert fun _ => harn).insert fun _ => (bare_toString_int _).legal).insert
    fun _ => (bare_toString_int _).legal

section Session

variable {b₀ b b' : Backend} {turns : List Turn} {desk : Desk} {caller : Caller}
  {occasion : Occasion}

theorem Session.presentable_queue (session : Session b₀ turns b) (hempty : b₀.store = .empty)
    (hturns : ∀ turn ∈ turns, turn.WellGiven) {queue : Queue}
    (h : b.store.lookup? queue.id = some queue) : queue.Presentable := by
  -- a queue goes back to the request that made it
  obtain ⟨turn, hmem, name?, supplied, name, b₁, b₂, -, hchecked, hid, -⟩ :=
    session.exists_made hempty h
  have hgiven := hturns turn hmem
  refine ⟨?_, ?_, ?_⟩
  · rw [hid]
    exact hgiven.account
  · rw [hid]
    exact (queueName_ok hchecked.name).2
  · exact presentable_setAttributes hgiven.account hgiven.region
      QueueAttributes.presentable_standard hchecked.attributes

theorem describeQueue_ok {locator : String} {names : List String}
    {attributes : Dict QueueAttribute String} (hkeyed : b.store.Keyed)
    (h : (describeQueue desk caller locator names).runOn b = (.ok attributes, b')) :
    ∃ queue, b.store.lookup? queue.id = some queue ∧
      ∀ e ∈ attributes.entries, (queue.describe caller.region).find? e.1 = some e.2 := by
  unfold describeQueue at h
  obtain ⟨wanted, _, hverdict, h⟩ := bind_ok h
  obtain ⟨-, rfl⟩ := ofExcept_ok hverdict
  obtain ⟨queue, b₁, howned, h⟩ := bind_ok h
  cases h
  refine ⟨queue, (ownedQueue_ok hkeyed howned).1, ?_⟩
  intro e he
  exact Dict.mem_entries_iff.mp (List.mem_of_mem_filter he)

/-- A receive hands out messages with handles of its call. -/
theorem receiveMessages_handles {locator : String} {asked : Option Int} {given : List Message}
    (h : (receiveMessages desk caller occasion locator asked).runOn b = (.ok given, b')) :
    ∀ m ∈ given, ∃ i, m.receiptHandle? = some (occasion.handles i) := by
  unfold receiveMessages at h
  obtain ⟨max, _, hverdict, h⟩ := bind_ok h
  obtain ⟨-, rfl⟩ := ofExcept_ok hverdict
  obtain ⟨queue, b₁, -, h⟩ := bind_ok h
  obtain ⟨messages, b₂, hreceive, h⟩ := bind_ok h
  cases h
  cases Backend.call_answer (ofAction_ok hreceive) with
  | granted done =>
      obtain ⟨q, kept, -, hdeliver, -⟩ := receive_ok done
      have hhandles := congrArg Prod.fst hdeliver ▸ deliver_handles
      rw [List.forall_mem_map]
      exact hhandles
  | missed _ answer => cases answer

/-- What a receive hands out goes back to a message that the session took, as it was put into its queue. -/
theorem Session.exists_handed (session : Session b₀ turns b) (hempty : b₀.store = .empty)
    {locator : String} {asked : Option Int} {given : List Message}
    (h : (receiveMessages desk caller occasion locator asked).runOn b = (.ok given, b')) :
    ∀ m ∈ given, ∃ a ∈ accepted turns, ∃ x log before n now full, a.Put x ∧
      Handed log before n now full x ∧ full.stripInternal = m := by
  -- the session goes on with the receive, so that its messages are among those handed out
  let turn : Turn :=
    { desk, caller, occasion, request := .receiveMessages locator asked
      outcome := .ok (.messages given) }
  have served : (turn.request.serve turn.desk turn.caller turn.occasion).runOn b =
      (turn.outcome, b') := by
    show (Reply.messages <$> _ : Operation Reply).runOn b = _
    rw [runOn_map, h]
    rfl
  obtain ⟨log, run, htells⟩ := (session.next served).exists_run hempty
  obtain ⟨outs, htraced⟩ := run.exists_traced
  have htook : accepted (turns ++ [turn]) = accepted turns := by
    rw [accepted, List.flatMap_append, List.flatMap_singleton]
    exact List.append_nil _
  rw [htook] at htells
  intro m hm
  have hout : (occasion.clock 0, m) ∈ handedOut (turns ++ [turn]) := by
    rw [handedOut, List.flatMap_append, List.flatMap_singleton]
    exact List.mem_append_right _ (List.mem_map_of_mem hm)
  rw [htells.returns, ← htraced.told, List.map_map] at hout
  obtain ⟨⟨n, now, full⟩, ho, heq⟩ := List.mem_map.mp hout
  obtain ⟨-, hshown⟩ := Prod.mk.inj heq
  obtain ⟨i, hi⟩ := List.mem_iff_getElem?.mp ho
  -- what was handed out goes back to a send, and the send to a request that was taken
  obtain ⟨x, hx⟩ := htraced.handed hi
  obtain ⟨a, ha, hput⟩ := getElem?_of_forall₂ htells.sends hx.sent
  exact ⟨a, List.mem_of_getElem? ha, x, log, _, n, now, full, hput, hx, hshown⟩

theorem Session.presentable_given (session : Session b₀ turns b) (hempty : b₀.store = .empty)
    (hturns : ∀ turn ∈ turns, turn.WellGiven) (hgiven : WellGiven desk caller occasion)
    {locator : String} {asked : Option Int} {given : List Message}
    (h : (receiveMessages desk caller occasion locator asked).runOn b = (.ok given, b')) :
    ∀ m ∈ given, m.Presentable := by
  intro m hm
  obtain ⟨a, ha, x, log, before, n, now, full, hput, hx, rfl⟩ :=
    session.exists_handed hempty h m hm
  have hreceipt := session.presentable_receipts (fun turn ht => (hturns turn ht).messageIds) a ha
  have hsender : Legal a.sender := by
    obtain ⟨turn, hturn, hmem⟩ := List.mem_flatMap.mp ha
    rw [turn.sender_accepts a hmem]
    exact (hturns turn hturn).account
  refine hput.presentable hx hsender hreceipt ?_
  obtain ⟨k, hk⟩ := receiveMessages_handles h _ hm
  rw [show full.receiptHandle? = some (occasion.handles k) from hk]
  exact hgiven.handles k

/-- **Every reply is presentable,** in every session that was well given. -/
theorem Session.presentable {request : Request} {reply : Reply} (session : Session b₀ turns b)
    (hempty : b₀.store = .empty) (hturns : ∀ turn ∈ turns, turn.WellGiven)
    (hgiven : WellGiven desk caller occasion)
    (served : (request.serve desk caller occasion).runOn b = (.ok reply, b')) : reply.Presentable := by
  have hurls : ∀ url ∈ reply.urls, Legal url := by
    obtain ⟨ids, hurls, hids⟩ :=
      Request.exists_concerned (session.keyed hempty) (session.plainNames hempty) served
    rw [hurls, List.forall_mem_map]
    intro id hid
    obtain ⟨hconcerns, hname⟩ := hids id hid
    have hslash : Legal "/" := by decide
    unfold AddressBook.url
    rw [hconcerns.account]
    simp only [legal_append_iff]
    exact ⟨⟨⟨⟨hgiven.endpoint, hslash⟩, hgiven.account⟩, hslash⟩, (bare_of_isPlain hname).legal⟩
  cases request with
  | createQueue | queueUrl =>
      obtain ⟨url, -, rfl⟩ := map_ok served
      exact hurls url (List.mem_singleton_self url)
  | listQueues =>
      obtain ⟨urls, -, rfl⟩ := map_ok served
      exact hurls
  | describeQueue locator names =>
      obtain ⟨attributes, hrun, rfl⟩ := map_ok served
      obtain ⟨queue, hqueue, hfind⟩ := describeQueue_ok (session.keyed hempty) hrun
      have hshown := (session.presentable_queue hempty hturns hqueue).describe hgiven.region
      exact fun e he hne => hshown (hfind e he) hne
  | sendMessage locator m =>
      obtain ⟨receipt, hrun, rfl⟩ := map_ok served
      exact presentable_sendMessage hgiven.messageIds hrun
  | sendBatch locator entries =>
      obtain ⟨outcome, hrun, rfl⟩ := map_ok served
      exact presentable_sendBatch hgiven.messageIds hrun
  | receiveMessages locator asked =>
      obtain ⟨given, hrun, rfl⟩ := map_ok served
      exact session.presentable_given hempty hturns hgiven hrun
  | purgeQueue | deleteQueue | deleteMessage =>
      obtain ⟨_, -, rfl⟩ := map_ok served
      trivial

end Session

end QueueService
