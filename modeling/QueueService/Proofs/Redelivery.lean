import QueueService.Proofs.Bookkeeping
import QueueService.Proofs.Session
import QueueService.Proofs.Store.Trace

/-!
# Redelivery

What receivers get of a message, however often it is handed out. The hand-outs of a session go back to
the messages that it took, as the trace of its store tells (`Store.Traced`), and each shows its message
as it was sent, with the number of the hand-out and the time of the first; the copy that stays in the
store has the same books, with the internal attributes.

* `Session.returned_asSent` — the statement for all sessions.
-/

namespace QueueService

open Store

/-! ## What a hand-out shows -/

/-- **As it was sent.** What the `k`-th receiver of a message gets, where the first one got it at the
    reading `first`: the message of the send, with the identifier and the digests of the receipt, a handle,
    and of the bookkeeping the summary. The count in it is a number of 64 bits, and it is `k` if `k` is
    one. -/
structure Accepted.Seen (a : Accepted) (first : Int) (k : Nat) (m : Message) : Prop where
  id : m.id = a.receipt.messageId
  bodyDigest : m.bodyDigest = a.receipt.bodyDigest
  attributesDigest : m.attributesDigest? = a.receipt.attributesDigest?
  body : a.message.body? = some m.body
  attributes : ∃ typed, OfferedAttribute.acceptAll a.limits [] a.message.attributes = .ok typed ∧
    m.attributes = OutboundMessage.attributeDict typed
  handle : m.receiptHandle?.isSome
  bookkeeping : ∃ count, m.bookkeeping = Books.summary a.sender a.now first count ∧
    (k < 1 <<< 64 → count = k)

/-- **The copy.** What stays in the store of a message that was handed out `k` times: what the receiver
    got, and the internal attributes beside it. Their count is a number of 64 bits with a sign. -/
structure Accepted.Copied (a : Accepted) (queue : Queue) (k : Nat) (m copy : Message) : Prop where
  stripped : copy.stripInternal = m
  count : k < 1 <<< 63 →
    copy.bookkeeping.find? InternalAttribute.localReceiveCount.key = some (toString k)
  delay : ∃ delay : Nat, a.message.DelayedBy a.limits queue delay ∧
    copy.bookkeeping.find? InternalAttribute.delaySeconds.key = some (toString delay)
  retention : copy.bookkeeping.find? InternalAttribute.messageRetentionPeriod.key =
    some (toString queue.attributes.messageRetentionPeriod)

section HandOut

variable {a : Accepted} {x : Sending} {log : List Step} {before : Outs} {n : Nat} {now : Int}
  {m : Message}

/-- The books of a message that is handed out: the time of the first hand-out is noted, and both counts
    have the number of this one as long as it fits. -/
theorem Store.Handed.books (h : Handed log before n now m x) {sender : String} {sent : Int}
    {delay retention k : Nat} (hopened : (Books.opening sender sent delay retention).Of x.message)
    (hk : k = (trail n before).length + 1) :
    ∃ count localCount,
      Books.Of ⟨sender, sent, delay, retention, some (((trail n before).head?.map (·.1)).getD now),
        count, localCount⟩ m ∧
      (k < 1 <<< 64 → count = k) ∧ (k < 1 <<< 63 → localCount = k) := by
  obtain ⟨handle, rfl⟩ := h.received
  -- the receives of the message, this one included
  obtain ⟨rs, hrs⟩ : ∃ rs, rs = trail n before ++ [(now, handle)] := ⟨_, rfl⟩
  have hlength : rs.length = k := by rw [hrs, hk, List.length_append, List.length_singleton]
  have hfirst : rs.head?.map (·.1) = some (((trail n before).head?.map (·.1)).getD now) := by
    rw [hrs]
    cases trail n before <;> rfl
  have hbooks := received_books (HeldMessage.replay_books (x := x.taken) hopened
    x.queue.attributes.visibilityTimeout (trail n before)) now handle
  rw [← Books.receives_snoc _ _ (now, handle), ← hrs] at hbooks
  obtain ⟨count, localCount, heq⟩ := Books.receives_opening sender sent delay retention rs
  refine ⟨count, localCount, ?_, fun hlt => ?_, fun hlt => ?_⟩
  · rw [← hfirst, ← heq]
    exact hbooks
  · rw [← hlength] at hlt ⊢
    rw [← Books.receives_count sender sent delay retention (Nat.le_of_lt hlt), heq]
  · rw [← hlength] at hlt ⊢
    rw [← Books.receives_localCount sender sent delay retention (Nat.le_of_lt hlt), heq]

/-- A hand-out shows its message as it was sent, and the copy has the same books. -/
theorem Accepted.Put.seen (hput : a.Put x) (h : Handed log before n now m x) {k : Nat}
    (hk : k = (trail n before).length + 1) :
    a.Seen (((trail n before).head?.map (·.1)).getD now) k m.stripInternal ∧
      a.Copied x.queue k m.stripInternal m := by
  obtain ⟨delay, hdelay, hopened⟩ := OutboundMessage.prepare_books hput.prepared
  obtain ⟨_, typed, body, -, htyped, hbody, -, hmessage⟩ := OutboundMessage.prepare_ok hput.prepared
  obtain ⟨handle, hm⟩ := h.received
  have hletter : m.letter = x.message.letter := by rw [hm, received_letter, Sending.after_letter]
  obtain ⟨hid, hsame, hbodyDigest, hattributesDigest, hattributes⟩ := Message.eq_of_letter hletter
  obtain ⟨count, localCount, hbooks, hcount, hlocalCount⟩ := h.books hopened hk
  refine ⟨⟨?_, ?_, ?_, ?_, ⟨typed, htyped, ?_⟩, ?_, ⟨count, hbooks.summary rfl, hcount⟩⟩,
    ⟨rfl, ?_, ⟨delay, hdelay, hbooks _⟩, hbooks _⟩⟩
  · rw [hput.receipt]
    exact hid
  · rw [hput.receipt]
    exact hbodyDigest
  · rw [hput.receipt]
    exact hattributesDigest
  · show _ = some m.body
    rw [hsame, hmessage, hbody.offered]
  · show m.attributes = _
    rw [hattributes, hmessage]
  · show m.receiptHandle?.isSome
    rw [hm]
    rfl
  · intro hlt
    obtain rfl := hlocalCount hlt
    exact hbooks _

end HandOut

/-! ## All sessions -/

/-- Hand-outs as receivers see them. -/
def seen (outs : Outs) : Outs := outs.map fun o => (o.1, o.2.1, o.2.2.stripInternal)

/-- Receivers see the handles as they are. -/
theorem trail_seen (n : Nat) (outs : Outs) : trail n (seen outs) = trail n outs := by
  rw [trail, seen, List.filter_map, List.map_map]
  rfl

/-- **Redelivery.** In every session each hand-out goes back to a message that the session took, and shows
    it as it was sent; behind the receive the store has the copy. The `k`-th hand-out of a message is the
    one before which its trail has `k - 1` entries. -/
theorem Session.returned_asSent {b₀ b : Backend} {turns : List Turn} (session : Session b₀ turns b)
    (hempty : b₀.store = .empty) :
    ∃ (log : List Step) (outs : Outs), Run log b.store ∧
      Tells (accepted turns) (handedOut turns) log ∧ outs.map (·.2) = handedOut turns ∧
      ∀ i n now m k, outs[i]? = some (n, now, m) → k = (trail n (outs.take i)).length + 1 →
        ∃ a, (accepted turns)[n]? = some a ∧
          a.Seen (((trail n (outs.take i)).head?.map (·.1)).getD now) k m ∧
          ∃ x copy earlier s₁ s₂, Source log earlier s₁ s₂ n now copy x ∧ a.Copied x.queue k m copy := by
  obtain ⟨log, run, htells⟩ := session.exists_run hempty
  obtain ⟨outs, htraced⟩ := run.exists_traced
  refine ⟨log, seen outs, run, htells, ?_, ?_⟩
  · rw [htells.returns, ← htraced.told, seen, List.map_map, List.map_map]
    rfl
  · intro i n now m k hi hk
    rw [seen, List.getElem?_map] at hi
    obtain ⟨⟨n', now', full⟩, hfull, heq⟩ := Option.map_eq_some_iff.mp hi
    cases heq
    have htrail : trail n' ((seen outs).take i) = trail n' (outs.take i) := by
      rw [seen, ← List.map_take]
      exact trail_seen ..
    rw [htrail] at hk ⊢
    obtain ⟨x, hx⟩ := htraced.handed hfull
    obtain ⟨a, ha, hput⟩ := getElem?_of_forall₂ htells.sends hx.sent
    obtain ⟨hseen, hcopied⟩ := hput.seen hx hk
    obtain ⟨earlier, s₁, s₂, hsource⟩ := hx.source
    exact ⟨a, ha, hseen, x, full, earlier, s₁, s₂, hsource, hcopied⟩

/-- A queue that does not hide what was received, and a message that is received twice. -/
def twiceReceived : List (Occasion × Request) :=
  let occasionAt (now : Int) : Occasion := { Sample.occasion with clock := fun _ => now }
  [(occasionAt 0, .createQueue (some "q") [("VisibilityTimeout", "0")]),
    (occasionAt 5000, .sendMessage (Sample.locator "q") ⟨some "a", none, []⟩),
    (occasionAt 6000, .receiveMessages (Sample.locator "q") none),
    (occasionAt 7000, .receiveMessages (Sample.locator "q") none)]

/-- The second receiver sees a count of two, and the time of the first receive. -/
theorem returned_asSent_twiceReceived :
    ∃ turns b a m m', Session (.reliable .empty) turns b ∧ accepted turns = [a] ∧ a.now = 5000 ∧
      handedOut turns = [(6000, m), (7000, m')] ∧ a.Seen 6000 2 m' := by
  obtain ⟨turns, b, session, a, m, m', hsent, hnow, hgave⟩ : ∃ turns b,
      Session (.reliable .empty) turns b ∧ ∃ a m m', accepted turns = [a] ∧ a.now = 5000 ∧
        handedOut turns = [(6000, m), (7000, m')] :=
    ⟨_, _, session_serveAll Sample.desk Sample.caller (.reliable .empty) twiceReceived,
      _, _, _, rfl, rfl, rfl⟩
  obtain ⟨log, outs, -, -, hgiven, hseen⟩ := Session.returned_asSent session rfl
  rw [hgave] at hgiven
  obtain ⟨⟨n, r⟩, rest, rfl, rfl, hrest⟩ := List.map_eq_cons_iff.mp hgiven
  obtain ⟨⟨n', r'⟩, rest', rfl, rfl, -⟩ := List.map_eq_cons_iff.mp hrest
  -- there is one message that both can go back to
  have hzero : ∀ {n a}, (accepted turns)[n]? = some a → n = 0 := by
    intro n a h
    rw [hsent] at h
    obtain ⟨hlt, -⟩ := List.getElem?_eq_some_iff.mp h
    simpa using hlt
  obtain ⟨_, hfirst, -⟩ := hseen 0 n _ _ 1 rfl rfl
  obtain rfl := hzero hfirst
  obtain rfl : n' = 0 := by
    by_contra hne
    have hnone : trail n' [(0, 6000, m)] = [] := trail_cons_of_ne (Ne.symm hne)
    obtain ⟨_, hsecond, -⟩ := hseen 1 n' _ _ 1 rfl (congrArg (·.length + 1) hnone).symm
    exact hne (hzero hsecond)
  obtain ⟨a', ha, hshown, -⟩ := hseen 1 0 _ _ 2 rfl rfl
  rw [hsent] at ha
  cases ha
  exact ⟨turns, b, a, m, m', session, hsent, hnow, hgave, hshown⟩

end QueueService
