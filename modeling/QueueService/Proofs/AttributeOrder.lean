import QueueService.Proofs.Operation
import QueueService.Proofs.Refusal

/-!
# The order of attributes

A message is prepared in the same way in whatever order its attributes are offered. They are checked one
after another, against the names that came before, but whether all pass depends on each of them and on their
names being different; and an attribute that passes becomes what it would become alone. So the attributes
that are accepted in one order are those that are accepted in another.

* `OfferedAttribute.acceptAll_perm` — the attributes that are accepted.
* `OutboundMessage.prepare_reordered` — the message that is prepared.
-/

namespace QueueService

/-! ## Accepted attributes -/

namespace OfferedAttribute

variable {limits : Limits} {taken : List String} {offers offers' : List OfferedAttribute}
  {accepted accepted' : List (String × AcceptedAttribute)}

/-- Each attribute becomes what it becomes alone. -/
theorem acceptAll_each (h : acceptAll limits taken offers = .ok accepted) :
    accepted.map (fun a => (a.1, Except.ok a.2)) =
      offers.map fun offer => (offer.name, (accept limits [] offer).1) := by
  induction offers generalizing taken accepted with
  | nil =>
      cases h
      rfl
  | cons offer rest ih =>
      unfold acceptAll at h
      split at h
      · cases h
      · next a taken' haccept =>
        obtain ⟨-, hnew, -⟩ := accept_ok haccept
        have halone : (accept limits taken offer).1 = (accept limits [] offer).1 := accept_new hnew
        rw [haccept] at halone
        split at h
        · cases h
        · next more hrest =>
          cases h
          rw [List.map_cons, List.map_cons, ih hrest, ← halone]

theorem Acceptable.of_perm (h : Acceptable limits offers) (hperm : offers.Perm offers') :
    Acceptable limits offers' where
  valid offer hmem := h.valid offer (hperm.mem_iff.mpr hmem)
  distinct := (hperm.map _).nodup_iff.mp h.distinct

/-- **Accepted in any order.** What is accepted of attributes in one order is accepted of them in another. -/
theorem acceptAll_perm (hperm : offers.Perm offers') (h : acceptAll limits [] offers = .ok accepted)
    (h' : acceptAll limits [] offers' = .ok accepted') : accepted.Perm accepted' := by
  have heach : (accepted.map fun a => (a.1, (Except.ok a.2 : Except AttributeError _))).Perm
      (accepted'.map fun a => (a.1, Except.ok a.2)) := by
    rw [acceptAll_each h, acceptAll_each h']
    exact hperm.map _
  refine (List.map_perm_map_iff ?_).mp heach
  rintro ⟨name, a⟩ ⟨name', a'⟩ heq
  cases heq
  rfl

end OfferedAttribute

/-! ## Prepared messages -/

/-- **The same contents.** Two messages agree in all but their identifiers and the times at which they were
    sent. -/
structure Message.SameContents (m m' : Message) : Prop where
  receiptHandle? : m.receiptHandle? = m'.receiptHandle?
  body : m.body = m'.body
  bodyDigest : m.bodyDigest = m'.bodyDigest
  attributesDigest? : m.attributesDigest? = m'.attributesDigest?
  attributes : m.attributes = m'.attributes
  bookkeeping : ∀ key, key ≠ SystemAttribute.sentTimestamp.key →
    m.bookkeeping.find? key = m'.bookkeeping.find? key

namespace OutboundMessage

variable {limits : Limits} {sender : String} {queue : Queue} {now now' : Int} {id id' : String}
  {m : OutboundMessage} {attributes : List OfferedAttribute}

theorem DelayedBy.unique {delay delay' : Nat} (h : m.DelayedBy limits queue delay)
    (h' : m.DelayedBy limits queue delay') : delay = delay' := by
  unfold DelayedBy at h h'
  revert h h'
  cases m.delay? with
  | none =>
      intro h h'
      exact h.trans h'.symm
  | some text =>
      intro h h'
      exact Int.ofNat.inj (Option.some.inj (h.1.symm.trans h'.1))

theorem attributeDict_of_perm {accepted accepted' : List (String × AcceptedAttribute)}
    (hperm : accepted.Perm accepted') (hnames : (accepted.map (·.1)).Nodup) :
    attributeDict accepted = attributeDict accepted' := by
  refine Dict.ofList_eq_of_perm (hperm.map _) ?_
  rwa [List.map_map]

/-- The time of sending stands under its own key. -/
theorem bookkeeping_find?_of_ne {delay : Int} {key : String}
    (hkey : key ≠ SystemAttribute.sentTimestamp.key) :
    (bookkeeping sender queue delay now).find? key = (bookkeeping sender queue delay now').find? key := by
  simp only [bookkeeping, Dict.ofList, List.foldl_cons, List.foldl_nil, Dict.find?_insert, if_neg hkey]

/-- Whether a message is prepared does not depend on the order of its attributes. -/
theorem exists_prepare_reordered (hperm : attributes.Perm m.attributes)
    (h : ∃ message, m.prepare limits sender queue now id = .ok message) :
    ∃ message, { m with attributes }.prepare limits sender queue now' id' = .ok message := by
  obtain ⟨htimely, hacceptable, body, hbodied, hsize⟩ := (prepare_decides ..).ok_iff.mp h
  have hsizes : offeredSize { m with attributes } body = m.offeredSize body := by
    rw [offeredSize, offeredSize, (hperm.map OfferedAttribute.size).sum_nat]
  exact (prepare_decides ..).ok_iff.mpr ⟨htimely, hacceptable.of_perm hperm.symm, body,
    ⟨hbodied.offered, hbodied.nonempty, hbodied.characters⟩, hsizes ▸ hsize⟩

/-- **Any order of attributes.** A message is prepared if and only if it is with its attributes in another
    order, and then it comes to the same contents. -/
theorem prepare_reordered (hperm : attributes.Perm m.attributes) (limits : Limits) (sender : String)
    (queue : Queue) (now now' : Int) (id id' : String) :
    ((∃ message, m.prepare limits sender queue now id = .ok message) ↔
        ∃ message', { m with attributes }.prepare limits sender queue now' id' = .ok message') ∧
      ∀ message message', m.prepare limits sender queue now id = .ok message →
        { m with attributes }.prepare limits sender queue now' id' = .ok message' →
          message.SameContents message' := by
  refine ⟨⟨exists_prepare_reordered hperm, exists_prepare_reordered hperm.symm⟩, ?_⟩
  intro message message' h h'
  obtain ⟨delay, accepted, body, hdelay, haccepted, hbodied, -, rfl⟩ := prepare_ok h
  obtain ⟨delay', accepted', body', hdelay', haccepted', hbodied', -, rfl⟩ := prepare_ok h'
  obtain rfl : delay = delay' := hdelay.unique hdelay'
  obtain rfl : body = body' := Option.some.inj (hbodied.offered.symm.trans hbodied'.offered)
  have hdict : attributeDict accepted = attributeDict accepted' :=
    attributeDict_of_perm (OfferedAttribute.acceptAll_perm hperm.symm haccepted haccepted')
      (OfferedAttribute.acceptAll_ok haccepted).1
  exact
    { receiptHandle? := rfl
      body := rfl
      bodyDigest := rfl
      attributesDigest? := by rw [hdict]
      attributes := hdict
      bookkeeping := fun _ => bookkeeping_find?_of_ne }

/-- A message with an attribute of one byte and one of text, not in the order of their names. -/
def twoAttributes : OutboundMessage :=
  ⟨some "body", none,
    [⟨"b.c", some ⟨"Binary", none, some "/w==", [], []⟩⟩, ⟨"a", some ⟨"String", some "é", none, [], []⟩⟩]⟩

/-- It is prepared, and prepared again later with its attributes in the order of their names. -/
theorem prepare_reordered_byName :
    ∃ message message',
      twoAttributes.prepare .standard "" (Queue.new (Sample.id "q") .standard 0) 0 "m" = .ok message ∧
        { twoAttributes with attributes := twoAttributes.attributes.reverse }.prepare .standard ""
            (Queue.new (Sample.id "q") .standard 0) 1 "n" = .ok message' ∧
        message.SameContents message' ∧ message'.attributes.keys = ["a", "b.c"] := by
  obtain ⟨message, hmessage, hkeys⟩ : ∃ message,
      twoAttributes.prepare .standard "" (Queue.new (Sample.id "q") .standard 0) 0 "m" = .ok message ∧
        message.attributes.keys = ["a", "b.c"] := ⟨_, rfl, rfl⟩
  have hperm : twoAttributes.attributes.reverse.Perm twoAttributes.attributes := List.reverse_perm _
  obtain ⟨hprepared, hsame⟩ := prepare_reordered hperm .standard ""
    (Queue.new (Sample.id "q") .standard 0) 0 1 "m" "n"
  obtain ⟨message', hmessage'⟩ := hprepared.mp ⟨message, hmessage⟩
  have hcontents := hsame _ _ hmessage hmessage'
  exact ⟨message, message', hmessage, hmessage', hcontents, hcontents.attributes ▸ hkeys⟩

end OutboundMessage

end QueueService
