import QueueService.Proofs.Session
import QueueService.Proofs.Store.Conservation

/-!
# Receipt handles

Which handles delete messages. Where identifiers and handles are fresh, a held message bears the handle of
its latest hand-out (`Session.held_handle`) and no two messages bear the same one, so that a handle finds
its message or none.

* `Session.deleteMessage_iff_latest` — the statement for all sessions and all handles.
-/

namespace QueueService

open Operation Store

/-! ## Borne handles -/

/-- The handle of the latest hand-out of a message. -/
def latest? (gave : List (Int × Message)) (id : String) : Option String :=
  (trail id (byId gave)).getLast?.map (·.2)

/-- The handle of a latest hand-out is that of a message that was handed out. -/
theorem exists_of_latest? {gave : List (Int × Message)} {id handle : String}
    (h : latest? gave id = some handle) : ∃ r ∈ gave, r.2.id = id ∧ r.2.handle = handle := by
  obtain ⟨receipt, hlast, rfl⟩ := Option.map_eq_some_iff.mp h
  have hmem := List.mem_of_getLast? hlast
  obtain ⟨o, ho, rfl⟩ := List.mem_map.mp hmem
  obtain ⟨hlisted, hid⟩ := List.mem_filter.mp ho
  obtain ⟨r, hr, rfl⟩ := List.mem_map.mp hlisted
  exact ⟨r, hr, eq_of_beq hid, rfl⟩

/-- A message that was sent without a handle bears that of its latest receive. -/
theorem Store.Sending.after_receiptHandle? {x : Sending} (h : x.message.receiptHandle? = none)
    (rs : List (Int × String)) :
    (x.after rs).message.receiptHandle? = rs.getLast?.map (·.2) := by
  induction rs using List.reverseRecOn with
  | nil => exact h
  | append_singleton rs r ih =>
      rw [after_append, HeldMessage.replay_singleton, List.getLast?_concat]
      rfl

section Tells

variable {took : List Accepted} {gave : List (Int × Message)} {log : List Step}

/-- The receipts have the identifiers of the messages. -/
theorem Tells.sentIds (h : Tells took gave log) :
    took.map (·.receipt.messageId) = Store.sentIds log := by
  have hsends := h.sends
  unfold Store.sentIds
  generalize sendings log = sent at hsends
  clear h
  induction hsends with
  | nil => rfl
  | cons hput _ ih =>
      rw [List.map_cons, List.map_cons, ih, hput.receipt]
      rfl

/-- Receivers see the handles as the log has them. -/
theorem Tells.receipts (h : Tells took gave log) (id : String) :
    trail id (byId gave) = Store.receipts id log := by
  rw [h.returns, Store.receipts, trail, trail, byId, byId, List.map_map, List.filter_map,
    List.filter_map, List.map_map, List.map_map]
  rfl

end Tells

/-- A sent message has no handle. -/
theorem Accepted.Put.receiptHandle? {a : Accepted} {x : Sending} (h : a.Put x) :
    x.message.receiptHandle? = none := by
  obtain ⟨_, _, _, -, -, -, -, hmessage⟩ := OutboundMessage.prepare_ok h.prepared
  rw [hmessage]

section Session

variable {b₀ b : Backend} {turns : List Turn} {id : QueueId} {q : HeldQueue}

/-- **Live handles.** In a session with fresh identifiers each held message bears the handle of its latest
    hand-out, and held messages have distinct identifiers. -/
theorem Session.held_handle (session : Session b₀ turns b) (hempty : b₀.store = .empty)
    (hids : ((accepted turns).map (·.receipt.messageId)).Nodup) (hq : b.store.held? id = some q) :
    (∀ x ∈ q.messages, x.message.receiptHandle? = latest? (handedOut turns) x.message.id) ∧
      (q.messages.map (·.message.id)).Nodup := by
  obtain ⟨log, run, htells⟩ := session.exists_run hempty
  rw [htells.sentIds] at hids
  have hholds := (Run.kept run hids).held hq
  refine ⟨fun y hy => ?_, hholds.ids_nodup hids⟩
  -- a held message is a sent one with its receipts, the last of which gave it its handle
  obtain ⟨x, hx, rfl⟩ := hholds.exists_remaining hy
  obtain ⟨n, hn⟩ := List.mem_iff_getElem?.mp (mem_remaining hx).1
  obtain ⟨a, -, hput⟩ := getElem?_of_forall₂ htells.sends hn
  rw [Sending.current, Sending.after_receiptHandle? hput.receiptHandle?, Sending.after_id, latest?,
    htells.receipts]

/-- With fresh handles no two held messages have the same latest one. -/
theorem eq_of_latest? {gave : List (Int × Message)} (hhandles : (gave.map (·.2.handle)).Nodup)
    (hids : (q.messages.map (·.message.id)).Nodup) {handle : String} {x y : HeldMessage}
    (hx : x ∈ q.messages) (hlatest : latest? gave x.message.id = some handle) (hy : y ∈ q.messages)
    (hlatest' : latest? gave y.message.id = some handle) : x = y := by
  obtain ⟨r, hr, hid, hhandle⟩ := exists_of_latest? hlatest
  obtain ⟨r', hr', hid', hhandle'⟩ := exists_of_latest? hlatest'
  have hsame : r = r' := List.inj_on_of_nodup_map hhandles hr hr' (hhandle.trans hhandle'.symm)
  refine List.inj_on_of_nodup_map hids hx hy ?_
  rw [← hid, ← hid', hsame]

end Session

/-! ## The request -/

namespace Service

variable {desk : Desk} {caller : Caller} {locator handle : String} {queue : Queue}
  {b b₁ b' : Backend} {r : Except ServiceError Unit}

/-- To find a queue no message is deleted. -/
theorem spares_ownedQueue : Spares .deleteMessage (ownedQueue desk caller locator) := by
  unfold ownedQueue
  split
  · exact Spares.ofExcept ..
  · split
    · exact Spares.ofExcept ..
    · refine (Spares.call (by decide) ..).bind fun found => ?_
      cases found with
      | some queue => exact Spares.pure ..
      | none => exact Spares.ofExcept ..

/-- Where no fault is due, the store answers a request to delete a message of a queue that was found. -/
theorem deleteMessage_answer (howned : (ownedQueue desk caller locator).runOn b = (.ok queue, b₁))
    (hfault : b.faults.next? .deleteMessage = none)
    (h : (deleteMessage desk caller locator handle).runOn b = (r, b')) :
    (∃ s', b.store.deleteMessage queue.id handle = .ok ((), s') ∧ r = .ok () ∧ b'.store = s') ∨
      ∃ e, b.store.deleteMessage queue.id handle = .error e ∧ r = .error (.store e) ∧
        b'.store = b.store := by
  have hs := (reads_ownedQueue _ _ _ howned).1
  have hnone : b₁.faults.next? .deleteMessage = none := by
    rw [FaultPlan.next?, spares_ownedQueue howned]
    exact hfault
  unfold deleteMessage at h
  rw [runOn_bind_of_ok howned, runOn_ofAction] at h
  rw [← hs]
  rcases hact : (Backend.deleteMessage queue.id handle).runOn b₁ with ⟨answer, b₂⟩
  rw [hact] at h
  cases h
  cases Backend.call_answer hact with
  | failed due => rw [hnone] at due; cases due
  | missed due => rw [hnone] at due; cases due
  | granted done => exact Or.inl ⟨_, done, rfl, rfl⟩
  | refused done => exact Or.inr ⟨_, done, rfl, rfl⟩

end Service

/-! ## All sessions -/

/-- **Handles.** In every session with fresh identifiers and handles, a deletion from a queue of the caller
    succeeds exactly if the handle was issued by the latest receive of a message that the queue still
    holds. It then takes out this message and changes nothing else; with any other handle it fails as the
    handle is not valid, and changes nothing at all. -/
theorem Session.deleteMessage_iff_latest {b₀ b b₁ b' : Backend} {turns : List Turn}
    (session : Session b₀ turns b) (hempty : b₀.store = .empty)
    (hids : ((accepted turns).map (·.receipt.messageId)).Nodup)
    (hhandles : ((handedOut turns).map (·.2.handle)).Nodup) {desk : Desk} {caller : Caller}
    {locator handle : String} {queue : Queue}
    (howned : (Service.ownedQueue desk caller locator).runOn b = (.ok queue, b₁))
    (hfault : b.faults.next? .deleteMessage = none) {r : Except ServiceError Unit}
    (hrun : (Service.deleteMessage desk caller locator handle).runOn b = (r, b')) :
    ∃ q, b.store.held? queue.id = some q ∧
      (r = .ok () ↔
        ∃ x ∈ q.messages, latest? (handedOut turns) x.message.id = some handle) ∧
      (∀ x ∈ q.messages, latest? (handedOut turns) x.message.id = some handle →
        ∃ before after, q.messages = before ++ x :: after ∧
          b'.store.held? queue.id = some { q with messages := before ++ after } ∧
          b.store.SameBut queue.id b'.store) ∧
      ((¬∃ x ∈ q.messages, latest? (handedOut turns) x.message.id = some handle) →
        ∃ e, r = .error e ∧ e.code = .receiptHandleIsInvalid ∧ b'.store = b.store) := by
  obtain ⟨log, run, -⟩ := session.exists_run hempty
  have hkeyed : b.store.Keyed := Path.keyed run fun _ _ hq => nomatch hq
  obtain ⟨q, hq, -⟩ := Option.map_eq_some_iff.mp (Service.ownedQueue_ok hkeyed howned).1
  obtain ⟨hlive, hdistinct⟩ := session.held_handle hempty hids hq
  refine ⟨q, hq, ?_⟩
  rcases Service.deleteMessage_answer howned hfault hrun with
    ⟨s', hdelete, rfl, hs⟩ | ⟨e, hdelete, rfl, hs⟩
  · -- the store has found a message under the handle, which is the only one
    obtain ⟨q', before, x, after, hq', hsplit, hbears, -, rfl⟩ := Store.deleteMessage_ok hdelete
    obtain rfl : q = q' := Option.some.inj (hq.symm.trans hq')
    have hx : x ∈ q.messages := hsplit ▸ List.mem_append_right _ List.mem_cons_self
    have hlatest : latest? (handedOut turns) x.message.id = some handle := (hlive x hx).symm.trans hbears
    refine ⟨⟨fun _ => ⟨x, hx, hlatest⟩, fun _ => rfl⟩, ?_, fun hnone => absurd ⟨x, hx, hlatest⟩ hnone⟩
    intro y hy hlatest'
    obtain rfl := eq_of_latest? hhandles hdistinct hx hlatest hy hlatest'
    rw [hs]
    exact ⟨before, after, hsplit, held?_setHeld_self .., sameBut_setHeld _ _ _⟩
  · -- the store has found none
    obtain ⟨rfl, hnone⟩ := Store.deleteMessage_error hq hdelete
    have hother : ∀ x ∈ q.messages, latest? (handedOut turns) x.message.id ≠ some handle :=
      fun x hx hlatest => hnone x hx ((hlive x hx).trans hlatest)
    refine ⟨⟨nofun, ?_⟩, ?_, fun _ => ⟨_, rfl, rfl, hs⟩⟩
    · rintro ⟨x, hx, hlatest⟩
      exact absurd hlatest (hother x hx)
    · intro x hx hlatest
      exact absurd hlatest (hother x hx)

/-- A queue that does not hide what was received, and a message that is received under two handles. -/
def superseded : List (Occasion × Request) :=
  let occasionFor (handle : String) : Occasion := { Sample.occasion with handles := fun _ => handle }
  [(Sample.occasion, .createQueue (some "q") [("VisibilityTimeout", "0")]),
    (Sample.occasion, .sendMessage (Sample.locator "q") ⟨some "a", none, []⟩),
    (occasionFor "first", .receiveMessages (Sample.locator "q") none),
    (occasionFor "second", .receiveMessages (Sample.locator "q") none)]

/-- The second handle deletes the message, and the first has become invalid. -/
theorem deleteMessage_iff_latest_superseded :
    ∃ turns b, Session (.reliable .empty) turns b ∧
      (handedOut turns).map (·.2.handle) = ["first", "second"] ∧
      (∃ b', (Service.deleteMessage Sample.desk Sample.caller (Sample.locator "q") "second").runOn b =
          (.ok (), b') ∧
        ∃ q, b.store.held? (Sample.id "q") = some q ∧
          ∃ x ∈ q.messages, latest? (handedOut turns) x.message.id = some "second") ∧
      ∃ e b', (Service.deleteMessage Sample.desk Sample.caller (Sample.locator "q") "first").runOn b =
          (.error e, b') ∧
        e.code = .receiptHandleIsInvalid ∧ b'.store = b.store := by
  have session := session_serveAll Sample.desk Sample.caller (.reliable .empty) superseded
  obtain ⟨turns, b, session, hids, hhandles, queue, b₁, howned, hqueue, hfault, b', hsecond, e, b'',
      hfirst⟩ : ∃ turns b, Session (.reliable .empty) turns b ∧
      (accepted turns).map (·.receipt.messageId) = ["m0"] ∧
      (handedOut turns).map (·.2.handle) = ["first", "second"] ∧
      ∃ queue b₁, (Service.ownedQueue Sample.desk Sample.caller (Sample.locator "q")).runOn b =
          (.ok queue, b₁) ∧
        queue.id = Sample.id "q" ∧ b.faults.next? .deleteMessage = none ∧
        ∃ b', (Service.deleteMessage Sample.desk Sample.caller (Sample.locator "q") "second").runOn b =
            (.ok (), b') ∧
          ∃ e b'', (Service.deleteMessage Sample.desk Sample.caller (Sample.locator "q")
            "first").runOn b = (.error e, b'') :=
    ⟨_, _, session, by decide, by decide, _, _, rfl, rfl, rfl, _, rfl, _, _, rfl⟩
  have hids' : ((accepted turns).map (·.receipt.messageId)).Nodup := hids ▸ by decide
  have hhandles' : ((handedOut turns).map (·.2.handle)).Nodup := hhandles ▸ by decide
  obtain ⟨q, hq, hiff, -⟩ :=
    Session.deleteMessage_iff_latest session rfl hids' hhandles' howned hfault hsecond
  obtain ⟨_, -, hiff', -, hinvalid⟩ :=
    Session.deleteMessage_iff_latest session rfl hids' hhandles' howned hfault hfirst
  obtain ⟨e', heq, hcode, hs⟩ := hinvalid fun hfound => nomatch hiff'.mpr hfound
  cases heq
  exact ⟨turns, b, session, hhandles, ⟨b', hsecond, q, hqueue ▸ hq, hiff.mp rfl⟩, e, b'', hfirst,
    hcode, hs⟩

end QueueService
