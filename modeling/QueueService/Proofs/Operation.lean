import QueueService.Service.Basic

/-!
# Running operations

What an operation answers and which backend it leaves, built up along its text: first the calls of the
backend, then sequences of steps. Later modules peel an operation apart with these lemmas and never
unfold the monads.

## Contents
- **Calls.** `Backend.Action.runOn`, with one equation for each thing that can stand in the fault plan,
  and `Backend.CallAnswer`, which says all that a call can come to.
- **Sequences.** `Operation.runOn_bind`, its two inversions `bind_ok` and `bind_error`, and `bind_trans`
  for whatever is passed on from step to step.
- **Effects.** `Operation.Reads` (the store is left alone), `Operation.FailsClean` (a failure leaves the
  store alone) and `Operation.Spares` (a kind of call is not made), each closed under the ways in which
  operations are put together.
-/

namespace QueueService

variable {α β : Type}

/-! ## Fault plans -/

namespace FaultPlan

/-- Taking the next fault of one kind of call leaves the other kinds alone. -/
theorem advance_of_ne (plan : FaultPlan) {c c' : Call} (h : c' ≠ c) : plan.advance c c' = plan c' :=
  if_neg h

/-- A kind of call without faults to come stays without. -/
theorem advance_eq_self {plan : FaultPlan} {c : Call} (h : plan c = []) : plan.advance c = plan := by
  funext c'
  unfold advance
  by_cases hc : c' = c
  · subst hc; simp [h]
  · rw [if_neg hc]

/-- Faults are only ever used up. -/
theorem advance_suffix (plan : FaultPlan) (c c' : Call) : plan.advance c c' <:+ plan c' := by
  by_cases h : c' = c
  · subst h
    rw [advance, if_pos rfl]
    exact List.drop_suffix 1 _
  · exact advance_of_ne plan h ▸ List.suffix_rfl

theorem next?_of_nil {plan : FaultPlan} {c : Call} (h : plan c = []) : plan.next? c = Option.none := by
  simp [next?, h]

end FaultPlan

/-! ## Calls of the backend -/

namespace Backend

/-- Make a call. -/
def Action.runOn (act : Action α) (b : Backend) : Except StoreError α × Backend :=
  (ExceptT.run act).run b

/-- The backend behind a call that did not reach the store. -/
def advance (b : Backend) (c : Call) : Backend := { b with faults := b.faults.advance c }

/-- Without faults to come, a call that does not reach the store leaves everything alone. -/
theorem advance_eq_self {b : Backend} {c : Call} (h : b.faults c = []) : b.advance c = b := by
  unfold advance
  rw [FaultPlan.advance_eq_self h]

@[simp] theorem reliable_store (s : Store) : (reliable s).store = s := rfl

/-- The answer of the store itself to a call. -/
def reach (b : Backend) (c : Call) (act : Store → Except StoreError (α × Store)) :
    Except StoreError α × Backend :=
  match act b.store with
  | .ok (a, store) => (.ok a, { b.advance c with store })
  | .error e => (.error e, b.advance c)

section Call

variable {c : Call} {missed : Option α} {act : Store → Except StoreError (α × Store)} {b : Backend}

theorem runOn_call : (call c missed act).runOn b =
    match b.faults.next? c, missed with
    | some (.failure e), _ => (.error e, b.advance c)
    | some .miss, some a => (.ok a, b.advance c)
    | some .miss, none => b.reach c act
    | none, _ => b.reach c act := rfl

theorem call_of_failure {e : StoreError} (h : b.faults.next? c = some (.failure e)) :
    (call c missed act).runOn b = (.error e, b.advance c) := by
  rw [runOn_call, h]

theorem call_of_miss {a : α} (h : b.faults.next? c = some .miss) :
    (call c (some a) act).runOn b = (.ok a, b.advance c) := by
  rw [runOn_call, h]

/-- A miss does not touch a call that has nothing to miss. -/
theorem call_of_miss_none (h : b.faults.next? c = some .miss) :
    (call c none act).runOn b = b.reach c act := by
  rw [runOn_call, h]

theorem call_of_none (h : b.faults.next? c = none) :
    (call c missed act).runOn b = b.reach c act := by
  rw [runOn_call, h]

/-- **All that a call can come to.** Either a fault answers in place of the store, or the store does;
    only a call that the store grants changes the store. -/
inductive CallAnswer (c : Call) (missed : Option α) (act : Store → Except StoreError (α × Store))
    (b : Backend) : Except StoreError α → Backend → Prop
  | failed {e : StoreError} (due : b.faults.next? c = some (.failure e)) :
      CallAnswer c missed act b (.error e) (b.advance c)
  | missed {a : α} (due : b.faults.next? c = some .miss) (answer : missed = some a) :
      CallAnswer c missed act b (.ok a) (b.advance c)
  | granted {a : α} {store : Store} (done : act b.store = .ok (a, store)) :
      CallAnswer c missed act b (.ok a) { b.advance c with store }
  | refused {e : StoreError} (done : act b.store = .error e) :
      CallAnswer c missed act b (.error e) (b.advance c)

/-- An answer of the store is one of the last two. -/
theorem reach_answer {r : Except StoreError α} {b' : Backend} (h : b.reach c act = (r, b')) :
    CallAnswer c missed act b r b' := by
  unfold reach at h
  split at h
  · next hact => cases h; exact .granted hact
  · next hact => cases h; exact .refused hact

theorem call_answer {r : Except StoreError α} {b' : Backend}
    (h : (call c missed act).runOn b = (r, b')) : CallAnswer c missed act b r b' := by
  cases hnext : b.faults.next? c with
  | none =>
      rw [call_of_none hnext] at h
      exact reach_answer h
  | some fault =>
      cases fault with
      | failure e =>
          rw [call_of_failure hnext] at h
          cases h
          exact .failed hnext
      | miss =>
          cases missed with
          | some a =>
              rw [call_of_miss hnext] at h
              cases h
              exact .missed hnext rfl
          | none =>
              rw [call_of_miss_none hnext] at h
              exact reach_answer h

/-- A call takes the next fault of its own kind, whatever it comes to. -/
theorem call_faults {r : Except StoreError α} {b' : Backend}
    (h : (call c missed act).runOn b = (r, b')) : b'.faults = b.faults.advance c := by
  cases call_answer h <;> rfl

/-- A call that fails leaves the store alone. -/
theorem call_error_store {e : StoreError} {b' : Backend}
    (h : (call c missed act).runOn b = (.error e, b')) : b'.store = b.store := by
  cases call_answer h <;> rfl

end Call

/-- Without faults of its kind to come, a call is answered by the store, and no faults are used up. -/
theorem call_of_nil {c : Call} (missed : Option α) (act : Store → Except StoreError (α × Store))
    {b : Backend} (h : b.faults c = []) :
    (call c missed act).runOn b =
      match act b.store with
      | .ok (a, store) => (.ok a, { b with store })
      | .error e => (.error e, b) := by
  have hadvance : b.advance c = b := advance_eq_self h
  rw [call_of_none (FaultPlan.next?_of_nil h)]
  unfold reach
  cases act b.store <;> simp only [hadvance]

/-- A look-up without a fault is answered by the store. -/
theorem lookupQueue_of_none (id : QueueId) {b : Backend} (h : b.faults.next? .lookupQueue = none) :
    (lookupQueue id).runOn b = (.ok (b.store.lookup? id), b.advance .lookupQueue) := by
  rw [lookupQueue, call_of_none h]
  rfl

theorem lookupQueue_of_nil (id : QueueId) {b : Backend} (h : b.faults .lookupQueue = []) :
    (lookupQueue id).runOn b = (.ok (b.store.lookup? id), b) :=
  call_of_nil _ _ h

theorem lookupQueue_reliable (id : QueueId) (s : Store) :
    (lookupQueue id).runOn (reliable s) = (.ok (s.lookup? id), reliable s) :=
  lookupQueue_of_nil id rfl

/-- A look-up leaves the store alone. -/
theorem lookupQueue_store {id : QueueId} {b b' : Backend} {r : Except StoreError (Option Queue)}
    (h : (lookupQueue id).runOn b = (r, b')) : b'.store = b.store := by
  cases call_answer h with
  | granted done => cases done; rfl
  | failed | missed | refused => rfl

/-- A look-up that finds a queue finds what the store holds. -/
theorem lookupQueue_some {id : QueueId} {b b' : Backend} {queue : Queue}
    (h : (lookupQueue id).runOn b = (.ok (some queue), b')) : b.store.lookup? id = some queue := by
  cases call_answer h with
  | granted done =>
      injection done with done
      exact (Prod.mk.inj done).1
  | missed _ answer => cases answer

end Backend

/-! ## Sequences of steps -/

namespace Operation

@[simp] theorem runOn_pure (a : α) (b : Backend) : runOn (pure a) b = (.ok a, b) := rfl

@[simp] theorem runOn_throw (e : ServiceError) (b : Backend) :
    runOn (throw e : Operation α) b = (.error e, b) := rfl

@[simp] theorem runOn_ofExcept (r : Except ServiceError α) (b : Backend) :
    runOn (ofExcept r) b = (r, b) := rfl

theorem runOn_ofAction (act : Backend.Action α) (b : Backend) :
    runOn (ofAction act) b = ((act.runOn b).1.mapError .store, (act.runOn b).2) := rfl

theorem runOn_attempt (act : Backend.Action α) (b : Backend) :
    runOn (attempt act) b = (.ok (act.runOn b).1, (act.runOn b).2) := rfl

theorem runOn_lift (m : StateM Backend α) (b : Backend) :
    runOn (ExceptT.lift m) b = (.ok (m.run b).1, (m.run b).2) := rfl

/-- The first step decides whether there is a second. -/
theorem runOn_bind (op : Operation α) (f : α → Operation β) (b : Backend) :
    runOn (op >>= f) b =
      match runOn op b with
      | (.ok a, b') => runOn (f a) b'
      | (.error e, b') => (.error e, b') := by
  simp only [runOn, ExceptT.run_bind, StateT.run_bind]
  rcases (ExceptT.run op).run b with ⟨e | a, b'⟩ <;> rfl

section Bind

variable {op : Operation α} {f : α → Operation β} {b b' b'' : Backend}

theorem runOn_bind_of_ok {a : α} (h : runOn op b = (.ok a, b')) :
    runOn (op >>= f) b = runOn (f a) b' := by
  rw [runOn_bind, h]

theorem runOn_bind_of_error {e : ServiceError} (h : runOn op b = (.error e, b')) :
    runOn (op >>= f) b = (.error e, b') := by
  rw [runOn_bind, h]

/-- A sequence that answers has answered at each step. -/
theorem bind_ok {c : β} (h : runOn (op >>= f) b = (.ok c, b'')) :
    ∃ a b', runOn op b = (.ok a, b') ∧ runOn (f a) b' = (.ok c, b'') := by
  rcases hop : runOn op b with ⟨e | a, b'⟩
  · rw [runOn_bind_of_error hop] at h
    cases h
  · rw [runOn_bind_of_ok hop] at h
    exact ⟨a, b', rfl, h⟩

/-- A sequence fails with the first of its steps to fail. -/
theorem bind_error {e : ServiceError} (h : runOn (op >>= f) b = (.error e, b'')) :
    runOn op b = (.error e, b'') ∨
      ∃ a b', runOn op b = (.ok a, b') ∧ runOn (f a) b' = (.error e, b'') := by
  rcases hop : runOn op b with ⟨e' | a, b'⟩
  · rw [runOn_bind_of_error hop] at h
    cases h
    exact Or.inl rfl
  · rw [runOn_bind_of_ok hop] at h
    exact Or.inr ⟨a, b', rfl, h⟩

/-- What each step does to the backend a sequence does, provided that doing it twice is doing it. -/
theorem bind_trans {R : Backend → Backend → Prop}
    (htrans : ∀ ⦃b b₁ b'⦄, R b b₁ → R b₁ b' → R b b')
    (hop : ∀ ⦃b b'⦄ ⦃r : Except ServiceError α⦄, runOn op b = (r, b') → R b b')
    (hf : ∀ a ⦃b b'⦄ ⦃r : Except ServiceError β⦄, runOn (f a) b = (r, b') → R b b')
    ⦃b b' : Backend⦄ ⦃r : Except ServiceError β⦄ (h : runOn (op >>= f) b = (r, b')) : R b b' := by
  rcases r with e | c
  · rcases bind_error h with h₁ | ⟨a, b₁, h₁, h₂⟩
    · exact hop h₁
    · exact htrans (hop h₁) (hf a h₂)
  · obtain ⟨a, b₁, h₁, h₂⟩ := bind_ok h
    exact htrans (hop h₁) (hf a h₂)

/-- Rewording an answer changes nothing else. -/
theorem runOn_map (g : α → β) (op : Operation α) (b : Backend) :
    runOn (g <$> op) b = ((runOn op b).1.map g, (runOn op b).2) := by
  simp only [runOn, ExceptT.run_map, StateT.run_map]
  rcases (ExceptT.run op).run b with ⟨e | a, b'⟩ <;> rfl

theorem map_ok {g : α → β} {c : β} (h : runOn (g <$> op) b = (.ok c, b')) :
    ∃ a, runOn op b = (.ok a, b') ∧ g a = c := by
  rw [runOn_map] at h
  rcases hrun : runOn op b with ⟨e | a, b₁⟩ <;> rw [hrun] at h <;> cases h
  exact ⟨a, rfl, rfl⟩

theorem map_error {g : α → β} {e : ServiceError} (h : runOn (g <$> op) b = (.error e, b')) :
    runOn op b = (.error e, b') := by
  rw [runOn_map] at h
  rcases hrun : runOn op b with ⟨e' | a, b₁⟩ <;> rw [hrun] at h <;> cases h
  rfl

end Bind

/-- A verdict that needs no call leaves everything alone. -/
theorem ofExcept_ok {r : Except ServiceError α} {a : α} {b b' : Backend}
    (h : runOn (ofExcept r) b = (.ok a, b')) : r = .ok a ∧ b = b' :=
  Prod.mk.inj h

/-- A call that answers, answers the operation made of it. -/
theorem ofAction_ok {act : Backend.Action α} {a : α} {b b' : Backend}
    (h : runOn (ofAction act) b = (.ok a, b')) : act.runOn b = (.ok a, b') := by
  rw [runOn_ofAction] at h
  rcases hact : act.runOn b with ⟨e | a', b₁⟩ <;> rw [hact] at h <;> cases h
  rfl

/-- A call that fails, fails the operation made of it. -/
theorem ofAction_error {act : Backend.Action α} {e : ServiceError} {b b' : Backend}
    (h : runOn (ofAction act) b = (.error e, b')) :
    ∃ cause, e = .store cause ∧ act.runOn b = (.error cause, b') := by
  rw [runOn_ofAction] at h
  rcases hact : act.runOn b with ⟨cause | a, b₁⟩ <;> rw [hact] at h <;> cases h
  exact ⟨cause, rfl, rfl⟩

section Call

variable {act : Backend.Action α} {f : α → Operation β} {b b' : Backend}

/-- A call that answers hands its answer on. -/
theorem call_bind_of_ok {a : α} (h : act.runOn b = (.ok a, b')) :
    runOn (ofAction act >>= f) b = runOn (f a) b' := by
  rw [runOn_bind, runOn_ofAction, h]; rfl

/-- A call that fails ends the operation. -/
theorem call_bind_of_error {cause : StoreError} (h : act.runOn b = (.error cause, b')) :
    runOn (ofAction act >>= f) b = (.error (.store cause), b') := by
  rw [runOn_bind, runOn_ofAction, h]; rfl

/-- A call that is attempted hands its answer or failure on. -/
theorem attempt_bind {f : Except StoreError α → Operation β} {r : Except StoreError α}
    (h : act.runOn b = (r, b')) : runOn (attempt act >>= f) b = runOn (f r) b' := by
  rw [runOn_bind, runOn_attempt, h]

end Call

/-! ## Effects on the store -/

/-- **Reading only.** Whatever it answers, the operation leaves the store alone, and faults are at most
    used up. -/
def Reads (op : Operation α) : Prop :=
  ∀ ⦃b b' : Backend⦄ ⦃r : Except ServiceError α⦄, runOn op b = (r, b') →
    b'.store = b.store ∧ ∀ c, b'.faults c <:+ b.faults c

/-- **Clean failure.** Where the operation fails, it leaves the store alone. -/
def FailsClean (op : Operation α) : Prop :=
  ∀ ⦃b b' : Backend⦄ ⦃e : ServiceError⦄, runOn op b = (.error e, b') → b'.store = b.store

/-- **No failure.** The operation answers on every backend. -/
def Answers (op : Operation α) : Prop :=
  ∀ ⦃b b' : Backend⦄ ⦃e : ServiceError⦄, runOn op b ≠ (.error e, b')

theorem Answers.pure (a : α) : Answers (Pure.pure a : Operation α) := by
  intro b b' e h
  cases h

theorem Answers.lift (m : StateM Backend α) : Answers (ExceptT.lift m : Operation α) := by
  intro b b' e h
  rw [runOn_lift] at h
  cases h

theorem Answers.failsClean {op : Operation α} (h : Answers op) : FailsClean op :=
  fun _ _ _ hop => (h hop).elim

theorem Reads.ofExcept (r : Except ServiceError α) : Reads (ofExcept r) := by
  intro b b' r' h
  cases h
  exact ⟨rfl, fun _ => List.suffix_rfl⟩

theorem Reads.pure (a : α) : Reads (Pure.pure a : Operation α) := Reads.ofExcept (.ok a)

theorem Reads.throw (e : ServiceError) : Reads (MonadExcept.throw e : Operation α) :=
  Reads.ofExcept (.error e)

theorem Reads.lookupQueue (id : QueueId) : Reads (ofAction (Backend.lookupQueue id)) := by
  intro b b' r h
  rcases hact : (Backend.lookupQueue id).runOn b with ⟨r₁, b₁⟩
  rw [runOn_ofAction, hact] at h
  cases h
  refine ⟨Backend.lookupQueue_store hact, fun c => ?_⟩
  rw [Backend.call_faults hact]
  exact FaultPlan.advance_suffix ..

theorem Reads.bind {op : Operation α} {f : α → Operation β} (hop : Reads op)
    (hf : ∀ a, Reads (f a)) : Reads (op >>= f) := by
  refine bind_trans ?_ hop hf
  rintro b b₁ b' ⟨hs₁, hc₁⟩ ⟨hs₂, hc₂⟩
  exact ⟨hs₂.trans hs₁, fun c => (hc₂ c).trans (hc₁ c)⟩

/-- On a backend without faults, reading changes nothing at all. -/
theorem Reads.reliable {op : Operation α} (hop : Reads op) {s : Store} {r : Except ServiceError α}
    {b' : Backend} (h : runOn op (.reliable s) = (r, b')) : b' = .reliable s := by
  obtain ⟨hs, hc⟩ := hop h
  obtain ⟨store, faults⟩ := b'
  have hfaults : faults = .none := funext fun c => List.suffix_nil.mp (hc c)
  rw [show store = s from hs, hfaults]
  rfl

theorem Reads.failsClean {op : Operation α} (h : Reads op) : FailsClean op := fun _ _ _ hop => (h hop).1

/-- A single call of the backend fails cleanly, whatever it is for. -/
theorem FailsClean.call (c : Call) (missed : Option α)
    (act : Store → Except StoreError (α × Store)) :
    FailsClean (ofAction (Backend.call c missed act)) := by
  intro b b' e h
  obtain ⟨cause, -, hact⟩ := ofAction_error h
  exact Backend.call_error_store hact

/-- **No failing step behind a changing one.** A sequence fails cleanly if its first step leaves the
    store alone or else is followed by steps that cannot fail. -/
theorem FailsClean.bind {op : Operation α} {f : α → Operation β}
    (hop : ∀ ⦃b b' r⦄, runOn op b = (r, b') → b'.store = b.store ∨ ∃ a, r = .ok a ∧ Answers (f a))
    (hf : ∀ a, FailsClean (f a)) : FailsClean (op >>= f) := by
  intro b b' e h
  rcases bind_error h with h₁ | ⟨a, b₁, h₁, h₂⟩
  · -- the first step is the one that fails, so that it did not answer
    rcases hop h₁ with hs | ⟨a, ha, -⟩
    · exact hs
    · cases ha
  · rcases hop h₁ with hs | ⟨a', ha, hans⟩
    · exact (hf a h₂).trans hs
    · cases ha
      exact (hans h₂).elim

/-- Reading first does no harm. -/
theorem Reads.bind_failsClean {op : Operation α} {f : α → Operation β} (hop : Reads op)
    (hf : ∀ a, FailsClean (f a)) : FailsClean (op >>= f) :=
  FailsClean.bind (fun _ _ _ h => Or.inl (hop h).1) hf

/-- Nothing fails behind the last step that can. -/
theorem FailsClean.bind_answers {op : Operation α} {f : α → Operation β} (hop : FailsClean op)
    (hf : ∀ a, Answers (f a)) : FailsClean (op >>= f) := by
  intro b b' e h
  rcases bind_error h with h₁ | ⟨a, b₁, -, h₂⟩
  · exact hop h₁
  · exact (hf a h₂).elim

theorem FailsClean.map {op : Operation α} (g : α → β) (hop : FailsClean op) :
    FailsClean (g <$> op) :=
  fun _ _ _ h => hop (map_error h)

/-! ## Which calls are made -/

/-- **Sparing.** The operation makes no call of a kind, so that it uses up none of its faults. -/
def Spares (c : Call) (op : Operation α) : Prop :=
  ∀ ⦃b b' : Backend⦄ ⦃r : Except ServiceError α⦄, runOn op b = (r, b') → b'.faults c = b.faults c

theorem Spares.ofExcept (c : Call) (r : Except ServiceError α) : Spares c (ofExcept r) := by
  intro b b' r' h
  cases h; rfl

theorem Spares.pure (c : Call) (a : α) : Spares c (Pure.pure a : Operation α) :=
  Spares.ofExcept c (.ok a)

theorem Spares.call {c c' : Call} (hne : c' ≠ c) (missed : Option α)
    (act : Store → Except StoreError (α × Store)) :
    Spares c' (ofAction (Backend.call c missed act)) := by
  intro b b' r h
  rcases hact : (Backend.call c missed act).runOn b with ⟨r₁, b₁⟩
  rw [runOn_ofAction, hact] at h
  cases h
  rw [Backend.call_faults hact, FaultPlan.advance_of_ne _ hne]

theorem Spares.bind {c : Call} {op : Operation α} {f : α → Operation β} (hop : Spares c op)
    (hf : ∀ a, Spares c (f a)) : Spares c (op >>= f) :=
  bind_trans (fun _ _ _ h₁ h₂ => h₂.trans h₁) hop hf

end Operation

/-! ## Sample givens

The one desk, caller and occasion on which later modules run operations on fixed inputs. -/

namespace Sample

def desk : Desk :=
  { limits := .standard
    addresses := { endpoint := "http://localhost:4566", accounts := ["123456789012"] } }

def caller : Caller :=
  { account := "123456789012", region := "us-east-1", privileged := false }

def occasion : Occasion :=
  { clock := fun _ => 5000, messageIds := fun i => "m" ++ toString i,
    handles := fun i => "r" ++ toString i }

/-- The identity of a queue of the caller. -/
def id (name : String) : QueueId := { account := caller.account, name }

/-- The locator of a queue of the caller. -/
def locator (name : String) : String := "/" ++ caller.account ++ "/" ++ name

/-- A message as it is held. -/
def held (body : String) : HeldMessage :=
  { message :=
      { id := body, receiptHandle? := none, body, bodyDigest := "", attributesDigest? := none,
        attributes := .empty, bookkeeping := .empty }
    visibleAt := 0, expiresAt := 9000 }

/-- A store that holds one queue of the caller, with standard attributes. -/
def store (name : String) (messages : List HeldMessage) : Store :=
  Store.empty.setHeld (id name) { queue := Queue.new (id name) .standard 0, messages }

end Sample

end QueueService
