import QueueService.Proofs.Address
import QueueService.Proofs.EncodedText
import QueueService.Proofs.Isolation

/-!
# Queues that are there

Which queues a store holds can be read off the answers of the session behind it: those that were made, or
found, at some turn and not deleted at a later one (`Session.lookup?_isSome_iff`). A listing has just these
queues of its caller, as far as their names begin with the text that was asked for.

* `Turn.lookup?_isSome_iff` — what one turn does to the queues that are there.
* `Session.listQueues_extant` — listings, of every caller and after every session without faults.
-/

namespace QueueService

open Operation Service

/-! ## Turns -/

namespace Turn

/-- The queue that a turn made, or found to be there as it was asked for. -/
def creates (turn : Turn) : Option QueueId :=
  match turn.request, turn.outcome with
  | .createQueue (some name) _, .ok _ => some ⟨turn.caller.account, name⟩
  | _, _ => none

/-- The queue that a turn deleted. -/
def deletes (turn : Turn) : Option QueueId :=
  match turn.request, turn.outcome with
  | .deleteQueue locator, .ok _ => turn.desk.addresses.resolve? locator
  | _, _ => none

end Turn

/-- **Extant queues.** They were made at some turn, and at none of those behind it deleted. -/
def Extant (turns : List Turn) (id : QueueId) : Prop :=
  ∃ before turn after, turns = before ++ turn :: after ∧ turn.creates = some id ∧
    ∀ later ∈ after, later.deletes ≠ some id

theorem not_extant_nil (id : QueueId) : ¬ Extant [] id := by
  rintro ⟨before, turn, after, heq, -⟩
  exact List.cons_ne_nil _ _ (List.append_eq_nil_iff.mp heq.symm).2

/-- The last turn makes a queue, or leaves it extant. -/
theorem extant_append_singleton_iff {turns : List Turn} {turn : Turn} {id : QueueId} :
    Extant (turns ++ [turn]) id ↔
      turn.creates = some id ∨ Extant turns id ∧ turn.deletes ≠ some id := by
  constructor
  · rintro ⟨before, made, after, heq, hcreates, hafter⟩
    rcases List.eq_nil_or_concat after with rfl | ⟨middle, last, rfl⟩
    · obtain ⟨-, hlast⟩ := List.append_inj' heq rfl
      cases hlast
      exact .inl hcreates
    · rw [List.concat_eq_append, ← List.cons_append, ← List.append_assoc] at heq
      obtain ⟨rfl, hlast⟩ := List.append_inj' heq rfl
      cases hlast
      rw [List.concat_eq_append] at hafter
      refine .inr ⟨⟨before, made, middle, rfl, hcreates, ?_⟩, ?_⟩
      · exact fun later hlater => hafter later (List.mem_append_left _ hlater)
      · exact hafter turn (List.mem_append_right _ (List.mem_singleton_self turn))
  · rintro (hcreates | ⟨⟨before, made, after, rfl, hcreates, hafter⟩, hdeletes⟩)
    · exact ⟨turns, turn, [], rfl, hcreates, List.forall_mem_nil _⟩
    · refine ⟨before, made, after ++ [turn], by rw [List.append_assoc]; rfl, hcreates, ?_⟩
      intro later hlater
      rcases List.mem_append.mp hlater with hlater | hlater
      · exact hafter later hlater
      · rwa [List.mem_singleton.mp hlater]

/-! ## Making and deleting -/

section Change

variable {desk : Desk} {caller : Caller} {occasion : Occasion} {s : Store} {b b' : Backend}

/-- A request for a queue that is answered leaves the queue there, and no other is touched. -/
theorem createQueue_isSome {name? : Option String} {supplied : List (String × String)} {url : String}
    (h : (createQueue desk caller occasion name? supplied).runOn (.reliable s) = (.ok url, b')) :
    ∃ name, name? = some name ∧ ∀ id, (b'.store.lookup? id).isSome ↔
      some ⟨caller.account, name⟩ = some id ∨ (s.lookup? id).isSome := by
  obtain ⟨name, attributes, b₁, existing?, hchecked, -, -, -⟩ := createQueue_ok h
  obtain rfl := (reads_queueAttributes ..).reliable hchecked.attributes
  refine ⟨name, (queueName_ok hchecked.name).1, fun id => ?_⟩
  rw [createQueue_of_checked hchecked] at h
  rw [Option.some_inj]
  cases hlook : s.lookup? ⟨caller.account, name⟩ with
  | some queue =>
      -- a queue was found, and the store is as it was
      simp only [hlook] at h
      split at h <;> cases h
      refine (or_iff_right_of_imp ?_).symm
      rintro rfl
      rw [Backend.reliable_store, hlook]
      rfl
  | none =>
      simp only [hlook] at h
      cases h
      rw [Backend.reliable_store, Store.lookup?, Store.held?_setHeld, Store.lookup?]
      by_cases hid : id = ⟨caller.account, name⟩
      · simp [hid]
      · simp [hid, Ne.symm hid]

theorem ownedQueue_resolve {locator : String} {queue : Queue} (hkeyed : b.store.Keyed)
    (h : (ownedQueue desk caller locator).runOn b = (.ok queue, b')) :
    desk.addresses.resolve? locator = some queue.id := by
  unfold ownedQueue at h
  split at h
  · cases h
  · next id hid =>
    split at h
    · cases h
    · obtain ⟨found, b₁, hlook, h⟩ := bind_ok h
      cases found with
      | none => cases h
      | some found =>
          cases h
          rw [hid, hkeyed.id_of_lookup? (Backend.lookupQueue_some (ofAction_ok hlook))]

/-- A deletion that is answered takes the queue away that its locator names, and no other. -/
theorem deleteQueue_isSome {locator : String} (hkeyed : b.store.Keyed)
    (h : (deleteQueue desk caller locator).runOn b = (.ok (), b')) (id : QueueId) :
    (b'.store.lookup? id).isSome ↔
      (b.store.lookup? id).isSome ∧ desk.addresses.resolve? locator ≠ some id := by
  obtain ⟨queue, b₁, howned, h⟩ := bind_ok h
  obtain ⟨_, b₂, hpurge, hdelete⟩ := bind_ok h
  have hsame : b.store.SameRecords b₂.store :=
    ((reads_ownedQueue _ _ _).keepsRecords howned).trans (keepsRecords_purge _ hpurge)
  rw [ownedQueue_resolve hkeyed howned]
  cases Backend.call_answer (ofAction_ok hdelete) with
  | granted done =>
      obtain ⟨-, rfl⟩ := Store.delete_ok done
      rw [← hsame id, Store.lookup?, Store.held?_erase, Option.some_inj.ne, Store.lookup?]
      by_cases hid : id = queue.id
      · simp [hid]
      · simp [hid, Ne.symm hid]
  | missed _ answer => cases answer

end Change

/-- Only requests to make or to delete a queue can change the records. -/
theorem Turn.Recorded.same {turn : Turn} {b b' : Backend} (h : turn.Recorded b b')
    (hcreate : ∀ name? supplied, turn.request ≠ .createQueue name? supplied)
    (hdelete : ∀ locator, turn.request ≠ .deleteQueue locator) : b.store.SameRecords b'.store := by
  cases h with
  | kept same => exact same
  | made asked => exact absurd asked (hcreate _ _)
  | deleted asked => exact absurd asked (hdelete _)

/-- A backend without faults stays without. -/
theorem Turn.exists_reliable {turn : Turn} {s : Store} {b' : Backend} (hkeyed : s.Keyed)
    (served : (turn.request.serve turn.desk turn.caller turn.occasion).runOn (.reliable s) =
      (turn.outcome, b')) : ∃ s' : Store, b' = .reliable s' ∧ s'.Keyed := by
  obtain ⟨_, s', _, hpaired⟩ := turn.request.confined_serve turn.desk turn.caller turn.occasion
    (hkeyed.indistinct turn.caller.account)
  cases hpaired.first.symm.trans served
  exact ⟨s', rfl, hpaired.indistinct.keyed⟩

/-- **One turn.** A queue is there behind it if the turn made it, or if it was there before and was not
    deleted. -/
theorem Turn.lookup?_isSome_iff {turn : Turn} {s : Store} {b' : Backend} (hkeyed : s.Keyed)
    (served : (turn.request.serve turn.desk turn.caller turn.occasion).runOn (.reliable s) =
      (turn.outcome, b')) (id : QueueId) :
    (b'.store.lookup? id).isSome ↔
      turn.creates = some id ∨ (s.lookup? id).isSome ∧ turn.deletes ≠ some id := by
  -- where the records are the same, nothing may have been made or deleted
  have hsame : (Backend.reliable s).store.SameRecords b'.store → turn.creates = none →
      turn.deletes = none → ((b'.store.lookup? id).isSome ↔
        turn.creates = some id ∨ (s.lookup? id).isSome ∧ turn.deletes ≠ some id) := by
    intro hsame hcreates hdeletes
    rw [hcreates, hdeletes, hsame id]
    simp
  have hrecorded := Turn.recorded served
  obtain ⟨desk, caller, occasion, request, outcome⟩ := turn
  cases request with
  | createQueue name? supplied =>
      cases outcome with
      | error e =>
          have hstore := failsClean_createQueue _ _ _ _ _ (map_error served)
          exact hsame (.of_eq hstore) (by cases name? <;> rfl) rfl
      | ok reply =>
          obtain ⟨url, hrun, rfl⟩ := map_ok served
          obtain ⟨name, rfl, hsome⟩ := createQueue_isSome hrun
          rw [hsome id]
          simp [creates, deletes]
  | deleteQueue locator =>
      cases outcome with
      | error e =>
          rcases deleteQueue_error (map_error served) with ⟨queue, hhalf⟩ | hstore
          · exact hsame hhalf.empties.lookup? rfl rfl
          · exact hsame (.of_eq hstore) rfl rfl
      | ok reply =>
          obtain ⟨⟨⟩, hrun, rfl⟩ := map_ok served
          rw [deleteQueue_isSome hkeyed hrun id]
          simp [creates, deletes]
  | queueUrl | listQueues | describeQueue | purgeQueue | sendMessage | sendBatch | receiveMessages
  | deleteMessage =>
      exact hsame (hrecorded.same (fun _ _ => nofun) fun _ => nofun) rfl rfl

/-! ## Sessions -/

/-- **The queues that are there** after a session without faults are those that are extant. -/
theorem Session.lookup?_isSome_iff {turns : List Turn} {b : Backend}
    (session : Session (.reliable .empty) turns b) :
    ∃ s : Store, b = .reliable s ∧ s.Keyed ∧ ∀ id, (s.lookup? id).isSome ↔ Extant turns id := by
  induction session with
  | start =>
      refine ⟨.empty, rfl, ?_, fun id => iff_of_false nofun (not_extant_nil id)⟩
      intro _ _ hq
      cases hq
  | next past served ih =>
      obtain ⟨s, rfl, hkeyed, hextant⟩ := ih
      obtain ⟨s', rfl, hkeyed'⟩ := Turn.exists_reliable hkeyed served
      refine ⟨s', rfl, hkeyed', fun id => ?_⟩
      rw [extant_append_singleton_iff, ← hextant id]
      exact Turn.lookup?_isSome_iff hkeyed served id

/-! ## Listings -/

theorem Service.listQueues_reliable (desk : Desk) (caller : Caller) (start? : Option String) (s : Store) :
    (listQueues desk caller start?).runOn (.reliable s) =
      (.ok (((s.list caller.account (start?.getD "")).map Queue.id).map desk.addresses.url),
        .reliable s) := by
  have hlist : (Backend.listQueues caller.account (start?.getD "")).runOn (.reliable s) =
      (.ok (s.list caller.account (start?.getD "")), .reliable s) := Backend.call_of_nil _ _ rfl
  rw [listQueues, call_bind_of_ok hlist, List.map_map]
  rfl

namespace Store

/-- The names of the queues of an account, in the order in which the store keeps them. -/
def names (s : Store) (account : String) : List String :=
  (s.queues.entries.filter fun e => e.1.account == account).map fun e => e.1.name

theorem mem_names_iff {s : Store} {account name : String} :
    name ∈ s.names account ↔ (s.lookup? ⟨account, name⟩).isSome := by
  rw [names, List.mem_map, lookup?, Option.isSome_map]
  constructor
  · rintro ⟨⟨⟨account', name'⟩, q⟩, he, rfl⟩
    obtain ⟨hmem, haccount⟩ := List.mem_filter.mp he
    obtain rfl : account' = account := by simpa using haccount
    rw [held?, Dict.mem_entries_iff.mp hmem]
    rfl
  · intro hsome
    obtain ⟨q, hq⟩ := Option.isSome_iff_exists.mp hsome
    refine ⟨(⟨account, name⟩, q), List.mem_filter.mpr ⟨Dict.mem_entries_iff.mpr hq, ?_⟩, rfl⟩
    exact beq_self_eq_true account

/-- The store keeps the queues of an account in the order of the bytes of their names. -/
theorem names_ascending (s : Store) (account : String) :
    (s.names account).Pairwise fun a b => Utf8.encode a < Utf8.encode b := by
  have hascending := s.queues.ascending.sublist
    (List.filter_sublist (p := fun e => e.1.account == account))
  refine List.pairwise_map.mpr (hascending.imp_of_mem ?_)
  intro e e' he he' hlt
  have haccount : e.1.account = account := by simpa using (List.mem_filter.mp he).2
  have haccount' : e'.1.account = account := by simpa using (List.mem_filter.mp he').2
  rw [compare_id_lt, haccount, haccount', Std.compare_self] at hlt
  obtain ⟨-, hname⟩ := hlt.resolve_left nofun
  exact Utf8.encode_lt (String.lt_iff.mpr (compare_text_lt.mp hname))

/-- A listing has the queues of those names that begin with the text. -/
theorem list_eq_names {s : Store} (hkeyed : s.Keyed) (account start : String) :
    (s.list account start).map Queue.id =
      ((s.names account).filter fun name => start.toList.isPrefixOf name.toList).map
        fun name => ⟨account, name⟩ := by
  rw [list_eq_filter, names, List.filter_map, List.filter_filter, List.map_map, List.map_map]
  have hlisted : (fun e : QueueId × HeldQueue => isListed account start e.1) = fun e =>
      ((fun name : String => start.toList.isPrefixOf name.toList) ∘ fun e => e.1.name) e &&
        e.1.account == account := by
    funext e
    exact Bool.and_comm ..
  rw [hlisted]
  refine List.map_congr_left fun e he => ?_
  obtain ⟨hmem, hchosen⟩ := List.mem_filter.mp he
  obtain ⟨⟨account', name⟩, q⟩ := e
  obtain rfl : account' = account := by simpa using (Bool.and_eq_true_iff.mp hchosen).2
  exact hkeyed (Dict.mem_entries_iff.mp hmem)

end Store

variable {turns : List Turn} {b : Backend}

/-- **Listings.** After every session without faults, the queues of a caller have their names in the order
    of the bytes, and they are those that are extant. The caller who asks for the queues whose names begin
    with a text is answered with the addresses of just these queues, in that order, and with all of them
    where there is no text or an empty one. -/
theorem Session.listQueues_extant (session : Session (.reliable .empty) turns b) (caller : Caller) :
    ∃ names : List String,
      (names.Pairwise fun a b => Utf8.encode a < Utf8.encode b) ∧
      (∀ name, name ∈ names ↔ Extant turns ⟨caller.account, name⟩) ∧
      ∀ (desk : Desk) (occasion : Occasion) (start? : Option String),
        ((Request.listQueues start?).serve desk caller occasion).runOn b =
          (.ok (.addresses
            ((names.filter fun name => start?.all fun start => start.toList.isPrefixOf name.toList).map
              fun name => desk.addresses.url ⟨caller.account, name⟩)), b) := by
  obtain ⟨s, rfl, hkeyed, hextant⟩ := session.lookup?_isSome_iff
  refine ⟨s.names caller.account, s.names_ascending _, fun name => ?_, ?_⟩
  · rw [Store.mem_names_iff, hextant]
  · intro desk occasion start?
    rw [Request.serve, runOn_map, listQueues_reliable, Store.list_eq_names hkeyed, List.map_map]
    -- no text is as good as an empty one
    cases start? <;> rfl

/-- Four queues, of which one is deleted and one is asked for again. -/
def comeAndGone : List (Occasion × Request) :=
  [(Sample.occasion, .createQueue (some "b") []), (Sample.occasion, .createQueue (some "ac") []),
    (Sample.occasion, .createQueue (some "ab") []), (Sample.occasion, .createQueue (some "a") []),
    (Sample.occasion, .deleteQueue (Sample.locator "ab")),
    (Sample.occasion, .createQueue (some "ac") [])]

/-- The answer that lists queues of the sample caller. -/
def Sample.listing (names : List String) : Except ServiceError Reply :=
  .ok (.addresses (names.map fun name => desk.addresses.url (id name)))

/-- The deleted queue is not extant, and the listing passes over it. -/
theorem listQueues_extant_comeAndGone :
    ∃ turns b, Session (.reliable .empty) turns b ∧ Extant turns (Sample.id "ac") ∧
      ¬ Extant turns (Sample.id "ab") ∧
      ((Request.listQueues (some "a")).serve Sample.desk Sample.caller Sample.occasion).runOn b =
        (Sample.listing ["a", "ac"], b) := by
  have session := session_serveAll Sample.desk Sample.caller (.reliable .empty) comeAndGone
  obtain ⟨names, -, hmem, hlist⟩ := session.listQueues_extant Sample.caller
  have hanswer (start? : Option String) := hlist Sample.desk Sample.occasion start?
  -- the answers can be computed, the backend behind them is known
  have hall : Sample.listing ["a", "ac", "b"] = _ := congrArg Prod.fst (hanswer none)
  have hsome : Sample.listing ["a", "ac"] = _ := congrArg Prod.fst (hanswer (some "a"))
  refine ⟨_, _, session, ?_, ?_, by rw [hanswer, hsome]⟩
  · exact ⟨[_, _, _, _, _], _, [], rfl, rfl, List.forall_mem_nil _⟩
  · intro hextant
    have hlisted : Sample.desk.addresses.url (Sample.id "ab") ∈
        ["a", "ac", "b"].map fun name => Sample.desk.addresses.url (Sample.id name) := by
      rw [Reply.addresses.inj (Except.ok.inj hall)]
      exact List.mem_map_of_mem (List.mem_filter.mpr ⟨(hmem "ab").mpr hextant, rfl⟩)
    exact absurd hlisted (by decide)

end QueueService
