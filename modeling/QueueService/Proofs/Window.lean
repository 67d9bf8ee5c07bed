import QueueService.Proofs.Bookkeeping
import QueueService.Proofs.Session
import QueueService.Proofs.Store.Trace

/-!
# Windows

When messages can be handed out. A message is not handed out before its delay is over, nor once its
retention is over, nor within the visibility timeout of its queue behind a hand-out of it. The times are
those that the message itself carries, and a message that the service took carries the time of its send,
the validated delay and the retention of its queue.

* `returned_inWindow` — the statement for all runs of the store and all sessions.
-/

namespace QueueService

open Store

/-! ## The windows of a hand-out -/

/-- **In its window.** A hand-out goes back to a message that was sent before, and it is made neither
    before the delay of the message is over, nor once its retention is over, nor within the timeout of
    the queue behind an earlier hand-out of the same message. -/
structure Store.InWindow (log : List Step) (before : Outs) (n : Nat) (now : Int) (m : Message)
    (x : Sending) : Prop where
  source : ∃ earlier s₁ s₂, Source log earlier s₁ s₂ n now m x
  letter : m.letter = x.message.letter
  delayed : x.visibleAt ≤ now
  retained : now < x.expiresAt
  hidden : ∀ o ∈ before, o.1 = n →
    o.2.1 + (x.queue.attributes.visibilityTimeout : Int) * 1000 ≤ now

theorem Store.Handed.inWindow {log : List Step} {before : Outs} {n : Nat} {now : Int} {m : Message}
    {x : Sending} (h : Handed log before n now m x) : InWindow log before n now m x := by
  obtain ⟨hdelayed, hhidden⟩ := h.timely.window
  obtain ⟨handle, hm⟩ := h.received
  refine ⟨h.source, ?_, Int.le_trans hdelayed h.visible, h.live, ?_⟩
  · rw [hm, received_letter, Sending.after_letter]
  · rintro o ho rfl
    exact Int.le_trans (hhidden _ (mem_trail before ho)) h.visible

/-! ## The times of a message -/

/-- **The times of a message that the service took.** Its delay is the validated one, its retention that
    of its queue, and both are counted from the time of the send. -/
structure Accepted.Timed (a : Accepted) (x : Sending) : Prop where
  delayed : ∃ delay, a.message.DelayedBy a.limits x.queue delay ∧
    x.visibleAt = a.now + (delay : Int) * 1000
  retained : x.expiresAt = a.now + (x.queue.attributes.messageRetentionPeriod : Int) * 1000

theorem Accepted.Put.timed {a : Accepted} {x : Sending} (h : a.Put x) : a.Timed x := by
  -- the store reads back the numbers that the preparation wrote
  obtain ⟨delay, hdelay, hbooks⟩ := OutboundMessage.prepare_books h.prepared
  have hsent : sentAt x.message x.now = a.now := h.now ▸ hbooks.sentAt
  have hretention : x.queue.attributes.messageRetentionPeriod < 1 <<< 32 :=
    QueueAttributes.setting_lt _ _ (by decide)
  refine ⟨⟨delay, hdelay, ?_⟩, ?_⟩
  · rw [Sending.visibleAt, hsent, hbooks.delay hdelay.lt]
    rfl
  · rw [Sending.expiresAt, hsent, hbooks.retention (Nat.lt_trans hretention (by decide))]
    rfl

/-! ## All runs -/

/-- **Windows.** In every run of the store each hand-out is in its window; and in every session the
    messages that the service took are put into queues with the times that were asked for. -/
theorem returned_inWindow {log : List Step} {s : Store} (run : Run log s) {b₀ b : Backend}
    {turns : List Turn} (session : Session b₀ turns b) (hempty : b₀.store = .empty) :
    (∃ outs : Outs, outs.map (·.2) = returned log ∧
      ∀ i n now m, outs[i]? = some (n, now, m) → ∃ x, InWindow log (outs.take i) n now m x) ∧
      ∃ log', Run log' b.store ∧ Tells (accepted turns) (handedOut turns) log' ∧
        List.Forall₂ Accepted.Timed (accepted turns) (sendings log') := by
  refine ⟨?_, ?_⟩
  · obtain ⟨outs, htraced⟩ := run.exists_traced
    refine ⟨outs, htraced.told, fun i n now m hi => ?_⟩
    obtain ⟨x, hx⟩ := htraced.handed hi
    exact ⟨x, hx.inWindow⟩
  · obtain ⟨log', run', htells⟩ := session.exists_run hempty
    exact ⟨log', run', htells, htells.sends.imp fun _ _ hput => hput.timed⟩

/-- A message that is received at the end of its delay, and again at the end of the timeout. -/
def redelivered : List Command :=
  let receive (now : Int) : Command := .receive now Sample.occasion.handles (Sample.id "q") 1
  let message : Message :=
    { (Sample.held "a").message with
      bookkeeping := OutboundMessage.bookkeeping "s" (Queue.new (Sample.id "q") .standard 0) 2 1000 }
  [.create 0 (Sample.id "q") .standard, .send 0 (Sample.id "q") message,
    receive 2999, receive 3000, receive 32999, receive 33000]

/-- A queue with a delay of three seconds, and two messages of which the second asks for seven. -/
def delayedSends : List (Occasion × Request) :=
  [(Sample.occasion, .createQueue (some "q") [("DelaySeconds", "3")]),
    (Sample.occasion, .sendMessage (Sample.locator "q") ⟨some "a", none, []⟩),
    (Sample.occasion, .sendMessage (Sample.locator "q") ⟨some "b", some " 7 ", []⟩)]

/-- The message is handed out twice, thirty seconds apart; of the two others the first has the delay of
    its queue and the second its own. -/
theorem returned_inWindow_redelivered :
    ∃ log s turns b, Run log s ∧ Session (.reliable .empty) turns b ∧
      (returned log).map (·.1) = [3000, 33000] ∧
      (∃ n m x before, InWindow log before n 33000 m x ∧ before.map (·.2.1) = [3000]) ∧
      ∃ log' x y, Run log' b.store ∧ sendings log' = [x, y] ∧
        x.visibleAt = 5000 + (x.queue.attributes.delaySeconds : Int) * 1000 ∧ y.visibleAt = 12000 := by
  have run : Run (Store.empty.record redelivered).1 (Store.empty.record redelivered).2 :=
    Path.of_record .empty redelivered
  have session := session_serveAll Sample.desk Sample.caller (.reliable .empty) delayedSends
  obtain ⟨⟨outs, hgiven, hwindows⟩, log', run', -, hsends⟩ := returned_inWindow run session rfl
  refine ⟨_, _, _, _, run, session, rfl, ?_, ?_⟩
  · have htwo : outs.map (·.2) = [(3000, _), (33000, _)] := hgiven
    obtain ⟨⟨n, r⟩, rest, rfl, rfl, hrest⟩ := List.map_eq_cons_iff.mp htwo
    obtain ⟨⟨n', r'⟩, rest', rfl, rfl, -⟩ := List.map_eq_cons_iff.mp hrest
    obtain ⟨x, hx⟩ := hwindows 1 n' _ _ rfl
    exact ⟨n', _, x, _, hx, rfl⟩
  · have htwo : accepted (serveAll Sample.desk Sample.caller (.reliable .empty) delayedSends).1 =
      [_, _] := rfl
    rw [htwo] at hsends
    obtain ⟨x, rest, hx, hrest, hlog⟩ := List.forall₂_cons_left_iff.mp hsends
    obtain ⟨y, rest', hy, hnil, rfl⟩ := List.forall₂_cons_left_iff.mp hrest
    obtain rfl := List.forall₂_nil_left_iff.mp hnil
    obtain ⟨delay, hqueue, hvisible⟩ := hx.delayed
    obtain ⟨delay', hown, hvisible'⟩ := hy.delayed
    have hread : Integer.signed? 64 (Blank.trim " 7 ") = some 7 := by decide
    obtain ⟨hown, -⟩ := hown
    rw [hread] at hown
    obtain rfl : 7 = delay' := Int.ofNat.inj (Option.some.inj hown)
    obtain rfl : delay = x.queue.attributes.delaySeconds := hqueue
    exact ⟨log', x, y, run', hlog, hvisible, hvisible'⟩

end QueueService
