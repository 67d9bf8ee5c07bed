import QueueService.Proofs.Operation
import QueueService.Proofs.Store.Locality
import QueueService.Proofs.Store.Run

/-!
# Operations on different queues

An operation that is aimed at one queue stays with it. It leaves what is held of all other queues alone,
and what it comes to depends on nothing that is held of them. Two operations that are aimed at different
queues can therefore be carried out in either order.

* `perform_frame` — what a command leaves alone, whatever comes of it.
* `SameOn.perform` — what a command depends on.
* `perform_stays` — both together, and that commands on different queues commute.
-/

namespace QueueService.Store

/-! ## Where commands are aimed -/

namespace Command

/-- The queue that a command is aimed at. A listing is aimed at none. -/
def aim : Command → Option QueueId
  | .lookup id => some id
  | .create _ id _ => some id
  | .list _ _ => none
  | .delete id => some id
  | .send _ id _ => some id
  | .receive _ _ id _ => some id
  | .deleteMessage id _ => some id
  | .purge id => some id

/-- Whether a command is about the messages of a queue. -/
def isOnMessages : Command → Bool
  | .send _ _ _ => true
  | .receive _ _ _ _ => true
  | .deleteMessage _ _ => true
  | .purge _ => true
  | _ => false

/-- Whether a command only looks. -/
def isReading : Command → Bool
  | .lookup _ => true
  | .list _ _ => true
  | _ => false

/-- A command can change no queue but the one that it is aimed at. -/
theorem target_ne_of_aim_ne {c : Command} {id : QueueId} (h : c.aim ≠ some id) :
    c.target ≠ some id := by
  cases c with
  | lookup | list => exact nofun
  | create | delete | send | receive | deleteMessage | purge => exact h

end Command

/-! ## What a command leaves alone -/

section Frame

variable {s s' : Store} {c : Command} {note : Note}

/-- A granted command about messages keeps all records. -/
theorem Granted.lookup?_of_isOnMessages (h : Granted s c note s') (hmessages : c.isOnMessages = true)
    (id : QueueId) : s'.lookup? id = s.lookup? id := by
  cases h with
  | lookup | list | create | delete => cases hmessages
  | send held | receive held | deleteMessage held | purge held =>
      exact lookup?_setHeld_messages held _ id

/-- A granted command that only looks leaves the store as it is. -/
theorem Granted.eq_of_isReading (h : Granted s c note s') (hreading : c.isReading = true) :
    s' = s := by
  cases h with
  | lookup | list => rfl
  | create | delete | send | receive | deleteMessage | purge => cases hreading

/-- A command that fails leaves the store as it is, so that what is left is in question only where the
    command is granted. -/
theorem perform_cases {P : Store → Prop} (s : Store) (c : Command) (refused : P s)
    (granted : ∀ ⦃note s'⦄, Granted s c note s' → P s') : P (s.perform c).2 := by
  rcases h : s.perform c with ⟨e | note, s'⟩
  · rw [perform_error h]
    exact refused
  · exact granted (perform_ok h)

/-- **A command stays with its queue.** What is held of any other queue is as it was. -/
theorem perform_frame (s : Store) (c : Command) {id : QueueId} (haim : c.aim ≠ some id) :
    (s.perform c).2.held? id = s.held? id := by
  apply perform_cases (P := fun s' => s'.held? id = s.held? id)
  · rfl
  · intro note s' hgranted
    exact hgranted.held?_of_target (Command.target_ne_of_aim_ne haim)

end Frame

/-! ## What a command depends on -/

section Depends

variable {α β : Type} {P : QueueId → Prop} {s s' : Store} {id : QueueId} {c : Command}

/-- What is noted of equal answers is equal. -/
theorem InStep.map {r r' : Except StoreError (α × Store)} (h : InStep P r r') (note : α → β) :
    InStep P (r.map fun a => (note a.1, a.2)) (r'.map fun a => (note a.1, a.2)) := by
  cases h with
  | granted a same => exact .granted (note a) same
  | refused e => exact .refused e

theorem SameOn.bearer? (h : SameOn P s s') (hid : P id) (handle : String) :
    s'.bearer? id handle = s.bearer? id handle := by
  rw [Store.bearer?, Store.bearer?, h hid]

/-- Stores that hold the same of the queue that a command is aimed at are in step on it. -/
theorem SameOn.execute (h : SameOn P s s') (haim : c.aim = some id) (hid : P id) :
    InStep P (s.execute c) (s'.execute c) := by
  have hlookup : s'.lookup? id = s.lookup? id := h.lookup? hid
  cases c with
  | list => cases haim
  | lookup =>
      cases haim
      rw [Store.execute, Store.execute, hlookup]
      exact .granted _ h
  | create now _ attributes =>
      cases haim
      exact (h.create hid now attributes).map Note.made
  | delete =>
      cases haim
      exact (h.delete hid).map fun _ => Note.done
  | send =>
      cases haim
      rw [Store.execute, Store.execute, hlookup]
      exact (h.withQueue hid _).map fun _ => Note.sent (s.lookup? id)
  | receive =>
      cases haim
      exact (h.withQueue hid _).map Note.given
  | deleteMessage _ handle =>
      cases haim
      -- which message bears the handle is looked up in the queue too
      rw [Store.execute, Store.execute, h.bearer? hid]
      exact (h.withQueue hid _).map fun _ => Note.removed (s.bearer? id handle)
  | purge =>
      cases haim
      exact (h.withQueue hid _).map fun _ => Note.done

/-- **A command depends on its queue alone.** On stores that hold the same of it, the command comes to the
    same, and they hold the same of it again. -/
theorem SameOn.perform (h : SameOn P s s') (haim : c.aim = some id) (hid : P id) :
    (s'.perform c).1 = (s.perform c).1 ∧ SameOn P (s.perform c).2 (s'.perform c).2 := by
  have hstep := h.execute haim hid
  unfold Store.perform
  generalize s.execute c = r at hstep ⊢
  generalize s'.execute c = r' at hstep ⊢
  cases hstep with
  | granted a same => exact ⟨rfl, same⟩
  | refused e => exact ⟨rfl, h⟩

end Depends

/-! ## Commands on different queues -/

/-- Stores that hold the same of all queues are equal. -/
theorem ext_held? {s s' : Store} (h : ∀ id, s.held? id = s'.held? id) : s = s' := by
  obtain ⟨queues⟩ := s
  obtain ⟨queues'⟩ := s'
  congr 1
  exact Dict.ext_find? h

/-- **Commuting.** In either order each of two commands comes to what it comes to without the other, and
    one store is left. -/
structure Commute (s : Store) (c d : Command) : Prop where
  first : ((s.perform d).2.perform c).1 = (s.perform c).1
  second : ((s.perform c).2.perform d).1 = (s.perform d).1
  store : ((s.perform c).2.perform d).2 = ((s.perform d).2.perform c).2

section Commute

variable {s : Store} {c d : Command} {id id' : QueueId}

/-- Behind a command on another queue, a command comes to what it comes to without it. -/
theorem perform_behind (hc : c.aim = some id) (hd : d.aim = some id') (hne : id ≠ id') :
    ((s.perform d).2.perform c).1 = (s.perform c).1 ∧
      ((s.perform d).2.perform c).2.held? id = (s.perform c).2.held? id := by
  have hother : d.aim ≠ some id := by
    rw [hd]
    intro heq
    exact hne (Option.some.inj heq).symm
  -- the store behind the other command is as good as the one before it, as far as this queue goes
  have hsame : SameOn (· = id) s (s.perform d).2 := by
    rintro _ rfl
    exact perform_frame s d hother
  obtain ⟨houtcome, hafter⟩ := hsame.perform hc rfl
  exact ⟨houtcome, hafter rfl⟩

theorem commute_of_aim_ne (hc : c.aim = some id) (hd : d.aim = some id') (hne : id ≠ id') :
    Commute s c d := by
  obtain ⟨hfirst, hown⟩ := perform_behind (s := s) hc hd hne
  obtain ⟨hsecond, hown'⟩ := perform_behind (s := s) hd hc hne.symm
  refine ⟨hfirst, hsecond, ext_held? fun j => ?_⟩
  by_cases hj : c.aim = some j
  · -- the queue of the first command: the second leaves it alone
    obtain rfl : id = j := Option.some.inj (hc.symm.trans hj)
    have hother : d.aim ≠ some id := by
      rw [hd]
      intro heq
      exact hne (Option.some.inj heq).symm
    rw [perform_frame _ d hother, hown]
  · rw [perform_frame _ c hj]
    by_cases hj' : d.aim = some j
    · obtain rfl : id' = j := Option.some.inj (hd.symm.trans hj')
      exact hown'
    · rw [perform_frame _ d hj', perform_frame _ d hj', perform_frame _ c hj]

end Commute

/-- **Operations stay with their queues.** Whatever comes of a command, it leaves what is held of all
    queues alone but of the one that it is aimed at. If it is about messages, that one keeps its record,
    and if it only looks, the store is as it was. Commands that are aimed at different queues commute. -/
theorem perform_stays (s : Store) (c : Command) :
    (∀ id, c.aim ≠ some id → (s.perform c).2.held? id = s.held? id) ∧
      (c.isOnMessages = true → ∀ id, (s.perform c).2.lookup? id = s.lookup? id) ∧
      (c.isReading = true → (s.perform c).2 = s) ∧
      ∀ d id id', c.aim = some id → d.aim = some id' → id ≠ id' → Commute s c d := by
  refine ⟨?_, ?_, ?_, ?_⟩
  · intro id haim
    exact perform_frame s c haim
  · intro hmessages id
    apply perform_cases (P := fun s' => s'.lookup? id = s.lookup? id)
    · rfl
    · intro note s' hgranted
      exact hgranted.lookup?_of_isOnMessages hmessages id
  · intro hreading
    apply perform_cases (P := fun s' => s' = s)
    · rfl
    · intro note s' hgranted
      exact hgranted.eq_of_isReading hreading
  · intro d id id' hc hd hne
    exact commute_of_aim_ne hc hd hne

/-- A send to one queue, the deletion of another, and a look at the first. -/
theorem perform_stays_twoQueues :
    let s := (Sample.store "a" [Sample.held "x"]).setHeld (Sample.id "b")
      { queue := Queue.new (Sample.id "b") .standard 0, messages := [] }
    let send := Command.send 5000 (Sample.id "b") (Sample.held "y").message
    let delete := Command.delete (Sample.id "a")
    (s.perform send).2.held? (Sample.id "a") = s.held? (Sample.id "a") ∧
      (s.perform send).2.lookup? (Sample.id "b") = s.lookup? (Sample.id "b") ∧
      (s.perform (.lookup (Sample.id "b"))).2 = s ∧ Commute s send delete := by
  intro s send delete
  obtain ⟨hframe, hrecords, -, hcommute⟩ := perform_stays s send
  obtain ⟨-, -, hlook, -⟩ := perform_stays s (.lookup (Sample.id "b"))
  exact ⟨hframe _ (by decide), hrecords rfl _, hlook rfl, hcommute delete _ _ rfl rfl (by decide)⟩

end QueueService.Store
