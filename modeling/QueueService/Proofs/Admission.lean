import Mathlib
import QueueService.Proofs.Acceptance
import QueueService.Proofs.Bookkeeping
import QueueService.Proofs.Session
import QueueService.Proofs.Store.Trace

/-!
# Admitted messages

What queues hold. A message has passed the checks for the record of its queue when it was sent, and since
neither the record nor what was checked of the message changes as long as the queue holds it, all that the
checks found still holds: whatever becomes of the limits, and also where a queue was deleted and made again
with other attributes.

* `prepare_admitted` — a prepared message is admitted to the queue that it was prepared for.
* `Session.held_admitted` — every message of every queue is admitted to it, after every session.
-/

namespace QueueService

open Store

/-- The bytes of a message: those of its body and of its attributes. -/
def Message.size (m : Message) : Nat :=
  m.body.utf8ByteSize + (m.attributes.entries.map fun e => attributeSize e.1 e.2).sum

/-- **Admitted.** The message is fit for a queue with a given record: its body and its attributes are well
    formed, its digests are theirs, it carries the retention of the queue, and it is not larger than the
    queue allows. -/
structure Message.Admitted (queue : Queue) (m : Message) : Prop where
  body : m.body ≠ ""
  characters : ∀ c ∈ m.body.toList, Alphabet.isBodyChar c = true
  bodyDigest : m.bodyDigest = Digest.ofBody m.body
  names : ∀ name value, m.attributes.find? name = some value → AttributeName name
  values : ∀ name value, m.attributes.find? name = some value → value.payload.Single
  attributesDigest : m.attributesDigest? =
    if m.attributes.entries = [] then none else some (Digest.ofAttributes m.attributes)
  retention : m.internal? .messageRetentionPeriod =
    some (queue.attributes.messageRetentionPeriod : Int)
  size : m.size ≤ queue.attributes.maximumMessageSize

/-! ## Admission -/

/-- The retention of a queue is a number of 63 bits, so that a message that carries it has it. -/
theorem QueueAttributes.messageRetentionPeriod_lt (attributes : QueueAttributes) :
    attributes.messageRetentionPeriod < 1 <<< 63 :=
  Nat.lt_trans (setting_lt _ _ (by decide)) (by decide)

namespace OutboundMessage

/-- The size that is checked is that of the body and of the attributes. -/
theorem size_eq {accepted : List (String × AcceptedAttribute)}
    (hsound : ∀ a ∈ accepted, OfferedAttribute.Sound a.1 a.2) (body : String) :
    size body accepted =
      body.utf8ByteSize + (accepted.map fun a => attributeSize a.1 a.2.value).sum := by
  induction accepted with
  | nil => rfl
  | cons a rest ih =>
      have hfirst := (hsound a List.mem_cons_self).size
      have hrest := ih fun b hb => hsound b (List.mem_cons_of_mem _ hb)
      rw [size] at hrest ⊢
      rw [List.foldr_cons, hrest, hfirst, List.map_cons, List.sum_cons]
      omega

variable {limits : Limits} {sender : String} {queue : Queue} {now : Int} {id : String}
  {m : OutboundMessage} {message : Message}

/-- **Admission.** What is prepared for a queue is fit for it. -/
theorem prepare_admitted (h : m.prepare limits sender queue now id = .ok message) :
    message.Admitted queue := by
  obtain ⟨_, -, hbooks⟩ := prepare_books h
  obtain ⟨delay, accepted, body, -, haccepted, hbody, hsize, hmessage⟩ := prepare_ok h
  obtain ⟨hnames, -, hsound⟩ := OfferedAttribute.acceptAll_ok haccepted
  have hperm := attributeDict_perm hnames
  have hattribute : ∀ name value, (attributeDict accepted).find? name = some value →
      AttributeName name ∧ value.payload.Single := by
    intro name value hfind
    obtain ⟨a, ha, heq⟩ := List.mem_map.mp (hperm.mem_iff.mp (Dict.mem_entries_iff.mpr hfind))
    obtain ⟨rfl, rfl⟩ := Prod.mk.inj heq
    exact ⟨(hsound a ha).named, (hsound a ha).single⟩
  rw [size_eq hsound] at hsize
  exact
    { body := hmessage ▸ hbody.nonempty
      characters := hmessage ▸ hbody.characters
      bodyDigest := by rw [hmessage]
      names := fun name value hfind => (hattribute name value (by rwa [hmessage] at hfind)).1
      values := fun name value hfind => (hattribute name value (by rwa [hmessage] at hfind)).2
      attributesDigest := by
        rw [hmessage]
        simp only [Dict.isEmpty, List.isEmpty_iff]
      retention := hbooks.retention (QueueAttributes.messageRetentionPeriod_lt _)
      size := by
        rw [Message.size, hmessage, (hperm.map _).sum_nat, List.map_map]
        exact hsize }

end OutboundMessage

/-! ## Staying admitted -/

/-- Receives write neither to the letter of a message nor to its retention. -/
theorem Message.Admitted.of_letter {queue : Queue} {m m' : Message} (h : m.Admitted queue)
    (hletter : m'.letter = m.letter)
    (hretention : m'.internal? .messageRetentionPeriod = m.internal? .messageRetentionPeriod) :
    m'.Admitted queue := by
  obtain ⟨-, hbody, hbodyDigest, hattributesDigest, hattributes⟩ := Message.eq_of_letter hletter
  exact
    { body := hbody ▸ h.body
      characters := hbody ▸ h.characters
      bodyDigest := by rw [hbodyDigest, hbody, h.bodyDigest]
      names := hattributes ▸ h.names
      values := hattributes ▸ h.values
      attributesDigest := by rw [hattributesDigest, hattributes, h.attributesDigest]
      retention := hretention.trans h.retention
      size := by
        have hsize := h.size
        rwa [Message.size, ← hbody, ← hattributes] at hsize }

/-- A message that the service took is admitted to its queue, however often it was received. -/
theorem Accepted.Put.admitted {a : Accepted} {x : Sending} (hput : a.Put x)
    (rs : List (Int × String)) : (x.after rs).message.Admitted x.queue := by
  have h := OutboundMessage.prepare_admitted hput.prepared
  obtain ⟨delay, -, hopened⟩ := OutboundMessage.prepare_books hput.prepared
  refine h.of_letter (Sending.after_letter x rs) ?_
  -- the books keep the retention that they were opened with
  have hbooks := HeldMessage.replay_books (x := x.taken) hopened
    x.queue.attributes.visibilityTimeout rs
  obtain ⟨count, localCount, heq⟩ := Books.receives_opening a.sender a.now delay
    x.queue.attributes.messageRetentionPeriod rs
  rw [heq] at hbooks
  have hlt := QueueAttributes.messageRetentionPeriod_lt x.queue.attributes
  exact (hbooks.retention hlt).trans (hopened.retention hlt).symm

/-- **Queues hold admitted messages only,** after every session, whatever the limits were at each turn. -/
theorem Session.held_admitted {b₀ b : Backend} {turns : List Turn} (session : Session b₀ turns b)
    (hempty : b₀.store = .empty) {id : QueueId} {q : HeldQueue} (hq : b.store.held? id = some q) :
    ∀ x ∈ q.messages, x.message.Admitted q.queue := by
  obtain ⟨log, run, htells⟩ := session.exists_run hempty
  obtain ⟨outs, htraced⟩ := Run.exists_traced run
  obtain ⟨marked, -, hmessages, hmarked⟩ := htraced.held hq
  intro x hx
  rw [hmessages] at hx
  obtain ⟨⟨n, y⟩, hp, rfl⟩ := List.mem_map.mp hx
  obtain ⟨hsent, -, hqueue, -⟩ := hmarked _ hp
  obtain ⟨a, -, hput⟩ := getElem?_of_forall₂ htells.sends hsent
  rw [← hqueue]
  exact hput.admitted _

/-- A message of thirteen bytes and a queue that is made again with room for it. -/
def madeAgain : List (Occasion × Request) :=
  let message : OutboundMessage :=
    ⟨some "aé", none, [⟨"b.c", some ⟨"Binary", none, some "/w==", [], []⟩⟩]⟩
  [(Sample.occasion, .createQueue (some "q") []),
    (Sample.occasion, .sendMessage (Sample.locator "q") message),
    (Sample.occasion, .deleteQueue (Sample.locator "q")),
    (Sample.occasion, .createQueue (some "q") [("MaximumMessageSize", "+1024")]),
    (Sample.occasion, .sendMessage (Sample.locator "q") message)]

/-- Limits under which the name of the attribute would be too long. -/
def lowered : Desk :=
  { Sample.desk with limits := { Limits.standard with messageAttributeNameLength := 1 } }

/-- The message was received under the lower limits, and it is still admitted to the second queue. -/
theorem held_admitted_lowered :
    ∃ turns b q x, Session (.reliable .empty) turns b ∧
      b.store.held? (Sample.id "q") = some q ∧ q.messages = [x] ∧
      q.queue.attributes.maximumMessageSize = 1024 ∧ x.message.receiptHandle? = some "r0" ∧
      x.message.size = 13 ∧ x.message.Admitted q.queue := by
  have session := (session_serveAll Sample.desk Sample.caller (.reliable .empty) madeAgain).trans
    (session_serveAll lowered Sample.caller _
      [(Sample.occasion, .receiveMessages (Sample.locator "q") none)])
  obtain ⟨turns, b, session, q, x, hq, hmessages, hroom, hhandle, hsize⟩ : ∃ turns b,
      Session (.reliable .empty) turns b ∧ ∃ q x, b.store.held? (Sample.id "q") = some q ∧
        q.messages = [x] ∧ q.queue.attributes.maximumMessageSize = 1024 ∧
        x.message.receiptHandle? = some "r0" ∧ x.message.size = 13 :=
    ⟨_, _, session, _, _, rfl, rfl, by decide, rfl, by decide⟩
  have hadmitted := Session.held_admitted session rfl hq x (hmessages ▸ List.mem_singleton_self x)
  exact ⟨turns, b, q, x, session, hq, hmessages, hroom, hhandle, hsize, hadmitted⟩

end QueueService
