import QueueService.Dict.Lemmas
import QueueService.Message.Outbound
import QueueService.Proofs.Acceptance
import QueueService.Proofs.Check

/-!
# Prepared messages

What is known of a message that was made ready to be stored: which delay, body and attributes it has, that
its size is within bounds, and that its bookkeeping has the texts of its sender, its time and its numbers
(`prepare_ok`).
-/

namespace QueueService

namespace OutboundMessage

variable {limits : Limits} {sender : String} {queue : Queue} {now : Int} {id : String}
  {m : OutboundMessage} {message : Message}

/-- **The validated delay.** The delay that a message asks for, which is a number within the limits, or
    that of its queue if it asks for none. -/
def DelayedBy (limits : Limits) (queue : Queue) (m : OutboundMessage) (delay : Nat) : Prop :=
  match m.delay? with
  | none => delay = queue.attributes.delaySeconds
  | some text => Integer.signed? 64 (Blank.trim text) = some (delay : Int) ∧ delay ≤ limits.delaySeconds

theorem delay_ok {n : Int} (h : m.delay limits queue = .ok n) :
    ∃ delay : Nat, n = delay ∧ m.DelayedBy limits queue delay := by
  unfold delay at h
  unfold DelayedBy
  revert h
  cases m.delay? with
  | none =>
    intro h
    cases h
    exact ⟨_, rfl, rfl⟩
  | some text =>
    intro h
    simp only at h
    split at h
    · cases h
    · next k hk =>
      split at h
      · next hrange =>
        cases h
        simp only [Bool.and_eq_true, decide_eq_true_eq] at hrange
        obtain ⟨delay, rfl⟩ := Int.eq_ofNat_of_zero_le hrange.1
        exact ⟨delay, rfl, hk, Int.ofNat_le.mp hrange.2⟩
      · cases h

/-- **A checked body.** The body that a message offers, which is not empty and drawn from its alphabet. -/
structure Bodied (m : OutboundMessage) (body : String) : Prop where
  offered : m.body? = some body
  nonempty : body ≠ ""
  characters : ∀ c ∈ body.toList, Alphabet.isBodyChar c = true

theorem checkedBody_ok {body : String} (h : m.checkedBody = .ok body) : m.Bodied body := by
  unfold checkedBody at h
  split at h
  · cases h
  · next text hbody =>
    obtain ⟨hoffered, hnonempty⟩ := Option.filter_eq_some_iff.mp hbody
    split at h
    · cases h
    · next hcharacter =>
      cases h
      exact ⟨hoffered, by simpa using hnonempty,
        Alphabet.firstNonBodyChar?_eq_none_iff.mp hcharacter⟩

/-- The attributes of a message are those that were accepted, since no name was accepted twice. -/
theorem attributeDict_perm {accepted : List (String × AcceptedAttribute)}
    (hnames : (accepted.map (·.1)).Nodup) :
    (attributeDict accepted).entries.Perm (accepted.map fun a => (a.1, a.2.value)) := by
  refine Dict.entries_ofList_perm ?_
  rwa [List.map_map]

/-- Each of them is one that was accepted, and the other way round. -/
theorem mem_attributeDict_iff {offers : List OfferedAttribute}
    {accepted : List (String × AcceptedAttribute)}
    (h : OfferedAttribute.acceptAll limits [] offers = .ok accepted) {e : String × AttributeValue} :
    e ∈ (attributeDict accepted).entries ↔ ∃ a ∈ accepted, (a.1, a.2.value) = e := by
  have hnames := (OfferedAttribute.acceptAll_ok h).1
  rw [(attributeDict_perm hnames).mem_iff, List.mem_map]

/-- **What was prepared.** A prepared message is put together from the delay, the attributes and the body
    that passed their checks, and is not larger than the queue allows. -/
theorem prepare_ok (h : m.prepare limits sender queue now id = .ok message) :
    ∃ (delay : Nat) (accepted : List (String × AcceptedAttribute)) (body : String),
      m.DelayedBy limits queue delay ∧
      OfferedAttribute.acceptAll limits [] m.attributes = .ok accepted ∧
      m.Bodied body ∧
      size body accepted ≤ queue.attributes.maximumMessageSize ∧
      message =
        { id
          receiptHandle? := none
          body
          bodyDigest := Digest.ofBody body
          attributesDigest? :=
            if (attributeDict accepted).isEmpty then none
            else some (Digest.ofAttributes (attributeDict accepted))
          attributes := attributeDict accepted
          bookkeeping := bookkeeping sender queue delay now } := by
  unfold prepare at h
  obtain ⟨n, hdelay, h⟩ := exceptBind_ok h
  obtain ⟨accepted, haccepted, h⟩ := exceptBind_ok h
  obtain ⟨body, hbody, h⟩ := exceptBind_ok h
  obtain ⟨delay, rfl, hasked⟩ := delay_ok hdelay
  refine ⟨delay, accepted, body, hasked, exceptMapError_ok haccepted, checkedBody_ok hbody, ?_⟩
  split at h
  · cases h
  · next hsize =>
    cases h
    exact ⟨Nat.le_of_not_lt hsize, rfl⟩

theorem prepare_id (h : m.prepare limits sender queue now id = .ok message) : message.id = id := by
  obtain ⟨delay, accepted, body, -, -, -, -, hmessage⟩ := prepare_ok h
  rw [hmessage]

end OutboundMessage

end QueueService
