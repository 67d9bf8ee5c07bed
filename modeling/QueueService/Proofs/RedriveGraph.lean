import QueueService.Proofs.Assignment
import QueueService.Proofs.Records
import QueueService.Proofs.RedrivePolicy

/-!
# The redrive graph

Where messages go that were received too often. No check forbids a queue to be its own target, or a circle
of queues. What forbids them is the order of events: the target of a policy is looked up before the queue
that has the policy is made, and a queue that is there is not made again. So all edges of a new queue lead
to older ones (`Store.Grounded.gains`), and as long as no queue is deleted this is how the whole graph
comes about (`Session.redrive_grounded`).
-/

namespace QueueService

open Operation Service

/-- The redrive policy of a queue, as the service reads it from the document that it keeps. -/
def Queue.Redrives (queue : Queue) (policy : RedrivePolicy) : Prop :=
  ∃ document limits account region, queue.attributes.find? .redrivePolicy = some document ∧
    RedrivePolicy.parse limits account region document = .ok policy

namespace Store

variable {s s' : Store}

/-- There is a queue whose redrive policy has the given target. -/
def RedrivesTo (s : Store) (id target : QueueId) : Prop :=
  ∃ queue policy, s.lookup? id = some queue ∧ queue.Redrives policy ∧ policy.target = target

/-- **A grounded store.** All targets of redrive policies are there, and no way along them leads back to
    where it began. -/
structure Grounded (s : Store) : Prop where
  present : ∀ {id target : QueueId}, s.RedrivesTo id target → (s.lookup? target).isSome
  acyclic : ∀ id, ¬ Relation.TransGen s.RedrivesTo id id

theorem grounded_empty : Store.empty.Grounded where
  present := by
    rintro id target ⟨queue, policy, hlook, -⟩
    cases hlook
  acyclic := by
    intro id hcycle
    cases hcycle with
    | single hedge | tail _ hedge =>
        obtain ⟨queue, policy, hlook, -⟩ := hedge
        cases hlook

theorem SameRecords.redrivesTo_iff (h : s.SameRecords s') {id target : QueueId} :
    s'.RedrivesTo id target ↔ s.RedrivesTo id target := by
  unfold RedrivesTo
  rw [h id]

theorem Grounded.same (hg : s.Grounded) (h : s.SameRecords s') : s'.Grounded where
  present := by
    intro id target hedge
    rw [h target]
    exact hg.present (h.redrivesTo_iff.mp hedge)
  acyclic := by
    have hsame : s'.RedrivesTo = s.RedrivesTo := by
      funext id target
      exact propext h.redrivesTo_iff
    rw [hsame]
    exact hg.acyclic

section Gains

variable {id : QueueId} {attributes : QueueAttributes}

/-- A new queue adds no edges but its own. -/
theorem Gains.redrivesTo_old (h : s.Gains id attributes s') {id' target : QueueId} (hne : id' ≠ id)
    (hedge : s'.RedrivesTo id' target) : s.RedrivesTo id' target := by
  obtain ⟨queue, policy, hlook, hpolicy⟩ := hedge
  rw [h.lookup?_of_ne hne] at hlook
  exact ⟨queue, policy, hlook, hpolicy⟩

/-- **One more queue.** If the targets of the new queue were there before it, the store stays grounded. -/
theorem Grounded.gains (hg : s.Grounded) (h : s.Gains id attributes s')
    (hnew : ∀ target, s'.RedrivesTo id target → (s.lookup? target).isSome) : s'.Grounded := by
  have habsent : s.lookup? id = none := h.lookup?_absent
  -- every edge, old or new, leads to a queue that was there before
  have hbefore : ∀ {id' target}, s'.RedrivesTo id' target → (s.lookup? target).isSome := by
    intro id' target hedge
    by_cases heq : id' = id
    · subst heq
      exact hnew target hedge
    · exact hg.present (h.redrivesTo_old heq hedge)
  have hne : ∀ {id' target}, s'.RedrivesTo id' target → target ≠ id := by
    intro id' target hedge heq
    have hsome := hbefore hedge
    rw [heq, habsent] at hsome
    cases hsome
  constructor
  · intro id' target hedge
    exact h.keeps target (hbefore hedge)
  · -- a circle does not pass the new queue, so it was there before
    have hold : ∀ {x y}, Relation.TransGen s'.RedrivesTo x y → x ≠ id →
        Relation.TransGen s.RedrivesTo x y ∧ y ≠ id := by
      intro x y hway hx
      induction hway with
      | single hedge => exact ⟨.single (h.redrivesTo_old hx hedge), hne hedge⟩
      | tail _ hedge ih => exact ⟨.tail ih.1 (h.redrivesTo_old ih.2 hedge), hne hedge⟩
    intro x hcycle
    have hx : x ≠ id := by
      cases hcycle with
      | single hedge | tail _ hedge => exact hne hedge
    exact hg.acyclic x (hold hcycle hx).1

end Gains

end Store

/-! ## Policies of new queues -/

namespace Service

/-- **A policy as it is kept.** The document is the canonical one of a policy that the account may have. -/
structure Canonical (account document : String) (policy : RedrivePolicy) : Prop where
  written : ∃ region, document = policy.toDocument region
  reads : ∃ limits region, RedrivePolicy.parse limits account region document = .ok policy
  count : 1 ≤ policy.maxReceiveCount
  owner : policy.target.account = account

variable {desk : Desk} {caller : Caller} {name? : Option String} {supplied : List (String × String)}
  {b b₁ : Backend} {name document : String} {attributes : QueueAttributes}

/-- The policy of a checked request is kept in canonical form, and its target is there. -/
theorem Checked.exists_canonical (hc : Checked desk caller name? supplied b name attributes b₁)
    (hdocument : attributes.find? .redrivePolicy = some document) :
    ∃ policy, Canonical caller.account document policy ∧ (b.store.lookup? policy.target).isSome := by
  obtain ⟨value, policy, hstanding, rfl⟩ := queueAttributes_redrive hc.attributes hdocument
  have hvalid := RedrivePolicy.valid_of_parse hstanding.reads
  refine ⟨policy, ?_, hstanding.target⟩
  exact
    { written := ⟨caller.region, rfl⟩
      reads := ⟨desk.limits, caller.region, hvalid.parse_toDocument⟩
      count := hvalid.count.1
      owner := hvalid.owner }

/-- Whoever reads the policy of a new queue finds a target that was there before it. -/
theorem Checked.target_isSome (hc : Checked desk caller name? supplied b name attributes b₁) {s' : Store}
    {id target : QueueId} (hgains : b.store.Gains id attributes s') (hedge : s'.RedrivesTo id target) :
    (b.store.lookup? target).isSome := by
  obtain ⟨queue, policy, hlook, ⟨document, limits, account, region, hdocument, hread⟩, rfl⟩ := hedge
  obtain ⟨queue', hlook', rfl⟩ := hgains.lookup?_self
  cases hlook.symm.trans hlook'
  obtain ⟨policy', hcanonical, htarget⟩ := hc.exists_canonical hdocument
  obtain ⟨limits', region', hread'⟩ := hcanonical.reads
  obtain rfl := RedrivePolicy.parse_unique hread' hread
  exact htarget

end Service

/-! ## Sessions -/

/-- Without deletions, every session from an empty store keeps the store grounded. -/
theorem Session.grounded {b₀ b : Backend} {turns : List Turn} (session : Session b₀ turns b)
    (hempty : b₀.store = .empty)
    (hkept : ∀ turn ∈ turns, ∀ locator, turn.request ≠ .deleteQueue locator) : b.store.Grounded := by
  induction session with
  | start =>
      rw [hempty]
      exact Store.grounded_empty
  | @next turns b b' turn past served ih =>
      have hgrounded : b.store.Grounded :=
        ih fun turn' hmem => hkept turn' (List.mem_append_left _ hmem)
      cases Turn.recorded served with
      | kept same => exact hgrounded.same same
      | made asked checked gains =>
          exact hgrounded.gains gains fun target hedge => checked.target_isSome gains hedge
      | @deleted locator id asked lost =>
          exact absurd asked (hkept turn (List.mem_append_right _ (List.mem_singleton_self turn)) locator)

/-- **Redrive policies.** Whatever is asked of an empty store, by whom, under which limits and with which
    faults: every redrive policy is kept in canonical form, with a count of one at least and a target in
    the account of its queue that is not the queue itself. And as long as no queue is deleted, every target
    is there, and no way along the targets leads back to where it began. -/
theorem Session.redrive_grounded {b₀ b : Backend} {turns : List Turn} (session : Session b₀ turns b)
    (hempty : b₀.store = .empty) :
    (∀ id queue document, b.store.lookup? id = some queue →
        queue.attributes.find? .redrivePolicy = some document →
        ∃ policy, Canonical id.account document policy ∧ queue.Redrives policy ∧ policy.target ≠ id) ∧
      ((∀ turn ∈ turns, ∀ locator, turn.request ≠ .deleteQueue locator) →
        (∀ id target, b.store.RedrivesTo id target → (b.store.lookup? target).isSome) ∧
          ∀ id, ¬ Relation.TransGen b.store.RedrivesTo id id) := by
  constructor
  · intro id queue document hqueue hdocument
    obtain ⟨turn, -, name?, supplied, name, b₁, b₂, -, hc, rfl, habsent⟩ :=
      session.exists_made hempty hqueue
    obtain ⟨policy, hcanonical, htarget⟩ := hc.exists_canonical hdocument
    obtain ⟨limits, region, hread⟩ := hcanonical.reads
    refine ⟨policy, hcanonical, ⟨document, limits, _, region, hdocument, hread⟩, ?_⟩
    -- the target was there when the queue was not
    intro heq
    rw [heq, habsent] at htarget
    cases htarget
  · intro hkept
    have hgrounded := session.grounded hempty hkept
    exact ⟨fun id target hedge => hgrounded.present hedge, hgrounded.acyclic⟩

/-- A document that names a queue of the caller's as the target, in a form of its own. -/
def redrivingDocument : String :=
  "\x7b\"maxReceiveCount\": \" 3 \", \"deadLetterTargetArn\": \"arn:aws:sqs:us-east-1:123456789012:dlq\"\x7d"

/-- The policy that the document gives. -/
def redrivingPolicy : RedrivePolicy := { maxReceiveCount := 3, target := Sample.id "dlq" }

theorem parse_redrivingDocument :
    RedrivePolicy.parse .standard Sample.caller.account Sample.caller.region redrivingDocument =
      .ok redrivingPolicy := by decide +kernel

/-- A queue made behind its target. -/
def behindTarget : List (Occasion × Request) :=
  [(Sample.occasion, .createQueue (some "dlq") []),
    (Sample.occasion, .createQueue (some "q") [("RedrivePolicy", redrivingDocument)])]

/-- It has an edge to the target, which is there, and there is no circle. -/
theorem redrive_grounded_behindTarget :
    ∃ turns b, Session (.reliable .empty) turns b ∧
      (∀ turn ∈ turns, ∀ locator, turn.request ≠ .deleteQueue locator) ∧
      (∃ queue document policy, b.store.lookup? (Sample.id "q") = some queue ∧
        Canonical Sample.caller.account document policy ∧ queue.Redrives policy ∧
          policy.target ≠ Sample.id "q") ∧
      b.store.RedrivesTo (Sample.id "q") (Sample.id "dlq") ∧
      (b.store.lookup? (Sample.id "dlq")).isSome ∧
      ¬ Relation.TransGen b.store.RedrivesTo (Sample.id "q") (Sample.id "q") := by
  have hread := parse_redrivingDocument
  -- the first queue is made on the empty store, and the second one beside it
  let s : Store := Store.empty.setHeld (Sample.id "dlq")
    { queue := Queue.new (Sample.id "dlq") .standard (Sample.occasion.clock 0), messages := [] }
  let attributes := QueueAttributes.standard.insert .redrivePolicy
    (redrivingPolicy.toDocument Sample.caller.region)
  let s' : Store := s.setHeld (Sample.id "q")
    { queue := Queue.new (Sample.id "q") attributes (Sample.occasion.clock 0), messages := [] }
  have hfirst : Checked Sample.desk Sample.caller (some "dlq") [] (.reliable .empty) "dlq" .standard
      (.reliable .empty) := ⟨rfl, rfl⟩
  have hsecond : Checked Sample.desk Sample.caller (some "q") [("RedrivePolicy", redrivingDocument)]
      (.reliable s) "q" attributes (.reliable s) := ⟨rfl, queueAttributes_of_standing ⟨hread, rfl⟩⟩
  have hserve : (serveAll Sample.desk Sample.caller (.reliable .empty) behindTarget).2 =
      .reliable s' := by
    have hmade : (Request.serve Sample.desk Sample.caller Sample.occasion
        (.createQueue (some "dlq") [])).runOn (.reliable .empty) =
          (.ok (.address (Sample.desk.addresses.url (Sample.id "dlq"))), .reliable s) := by
      rw [Request.serve, runOn_map, createQueue_of_checked hfirst]
      rfl
    have hmade' : (Request.serve Sample.desk Sample.caller Sample.occasion
        (.createQueue (some "q") [("RedrivePolicy", redrivingDocument)])).runOn (.reliable s) =
          (.ok (.address (Sample.desk.addresses.url (Sample.id "q"))), .reliable s') := by
      rw [Request.serve, runOn_map, createQueue_of_checked hsecond]
      rfl
    simp only [behindTarget, serveAll, hmade, hmade']
  have session := session_serveAll Sample.desk Sample.caller (.reliable .empty) behindTarget
  rw [hserve] at session
  have hkept : ∀ turn ∈ (serveAll Sample.desk Sample.caller (.reliable .empty) behindTarget).1,
      ∀ locator, turn.request ≠ .deleteQueue locator := by
    intro turn hmem locator heq
    have hasked := List.mem_map_of_mem (f := Turn.request) hmem
    rw [serveAll_requests, heq] at hasked
    simp [behindTarget] at hasked
  obtain ⟨hcanonical, hgraph⟩ := Session.redrive_grounded session rfl
  obtain ⟨hpresent, hacyclic⟩ := hgraph hkept
  have hqueue : s'.lookup? (Sample.id "q") = some (Queue.new (Sample.id "q") attributes 5000) := rfl
  have hdocument : attributes.find? .redrivePolicy =
      some (redrivingPolicy.toDocument Sample.caller.region) := Dict.find?_insert_self ..
  obtain ⟨policy, hpolicy⟩ := hcanonical _ _ _ hqueue hdocument
  have hedge : s'.RedrivesTo (Sample.id "q") (Sample.id "dlq") :=
    ⟨_, redrivingPolicy, hqueue, ⟨_, _, _, _, hdocument,
      (RedrivePolicy.valid_of_parse hread).parse_toDocument⟩, rfl⟩
  exact ⟨_, _, session, hkept, ⟨_, _, policy, hqueue, hpolicy⟩, hedge, hpresent _ _ hedge, hacyclic _⟩

end QueueService
