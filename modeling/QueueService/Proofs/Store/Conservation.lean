import QueueService.Proofs.Operation
import QueueService.Proofs.Store.Run
import Mathlib.Data.List.Induction

/-!
# Conservation of messages

What a queue holds, read off the log. The messages that `remain` of a queue are those put into it in its
current tenure, since it was last made and last emptied, less those that a later step took away: a
receive at whose reading they had expired, or a deletion by the handle that they had.

`Kept` is the invariant that all later modules rest on: the queue holds what remains of it, in the order
in which it was sent, each message as its receipts have left it.

* `Run.held_eq_remaining` — the statement for all runs with distinct identifiers.
-/

namespace QueueService.Store

/-! ## What remains -/

/-- Whether a step makes, empties or deletes a queue. -/
def Step.clears (id : QueueId) : Step → Bool
  | ⟨.create _ id' _, .ok _⟩ => id' == id
  | ⟨.delete id', .ok _⟩ => id' == id
  | ⟨.purge id', .ok _⟩ => id' == id
  | _ => false

/-- Whether a step takes a message out of its queue: it is a receive at whose reading the message has
    expired, or a deletion that found the message under its handle. -/
def Step.takes (x : Sending) : Step → Bool
  | ⟨.receive now _ id _, .ok _⟩ => id == x.id && decide (x.expiresAt ≤ now)
  | ⟨.deleteMessage id _, .ok (.removed id?)⟩ => id == x.id && id? == some x.message.id
  | _ => false

/-- The steps since a queue was last made or emptied, if it is there at all. -/
def tenure (id : QueueId) (log : List Step) : List Step :=
  (log.reverse.takeWhile fun step => !step.clears id).reverse

/-- The messages that a log put into a queue, each with the steps behind it. -/
def followed (id : QueueId) : List Step → List (Sending × List Step)
  | [] => []
  | step :: later => (step.sends.filter (·.id == id)).map (·, later) ++ followed id later

/-- What remains of the messages put into a queue. -/
def remaining (id : QueueId) (log : List Step) : List Sending :=
  ((followed id (tenure id log)).filter fun x => !x.2.any (·.takes x.1)).map (·.1)

section Remaining

variable (id : QueueId) (log : List Step) (step : Step)

theorem tenure_snoc :
    tenure id (log ++ [step]) = if step.clears id then [] else tenure id log ++ [step] := by
  unfold tenure
  rw [List.reverse_append, List.reverse_singleton, List.singleton_append, List.takeWhile_cons]
  cases step.clears id <;> simp

theorem followed_snoc :
    followed id (log ++ [step]) =
      (followed id log).map (fun x => (x.1, x.2 ++ [step])) ++
        (step.sends.filter (·.id == id)).map (·, []) := by
  induction log with
  | nil => simp [followed]
  | cons first later ih =>
      rw [List.cons_append, followed, followed, ih, List.map_append, List.map_map,
        ← List.append_assoc]
      rfl

/-- A step that makes, empties or deletes the queue leaves nothing. -/
theorem remaining_snoc_of_clears (h : step.clears id = true) :
    remaining id (log ++ [step]) = [] := by
  rw [remaining, tenure_snoc, if_pos h]
  rfl

/-- Any other step leaves what it does not take, and adds what it sends. -/
theorem remaining_snoc (h : step.clears id = false) :
    remaining id (log ++ [step]) =
      (remaining id log).filter (fun x => !step.takes x) ++
        step.sends.filter (·.id == id) := by
  rw [remaining, tenure_snoc, if_neg (by simp [h]), followed_snoc, List.filter_append,
    List.map_append, List.filter_map, List.filter_map, List.map_map, List.map_map]
  congr 1
  -- the step stands behind all earlier sends, and nothing stands behind its own
  · rw [remaining, List.filter_map, List.filter_filter]
    congr 1
    refine List.filter_congr fun x _ => ?_
    simp [List.any_append, Bool.and_comm]
  · rw [List.filter_eq_self.mpr (by simp)]
    exact List.map_id _

/-- What remains was put into the queue. -/
theorem remaining_sublist :
    (remaining id log).Sublist ((sendings log).filter (·.id == id)) := by
  induction log using List.reverseRecOn with
  | nil => exact List.nil_sublist _
  | append_singleton log step ih =>
      rw [sendings_append, sendings_singleton, List.filter_append]
      cases h : step.clears id with
      | true =>
          rw [remaining_snoc_of_clears id log step h]
          exact List.nil_sublist _
      | false =>
          rw [remaining_snoc id log step h]
          exact (List.filter_sublist.trans ih).append (List.Sublist.refl _)

end Remaining

theorem mem_remaining {id : QueueId} {log : List Step} {x : Sending}
    (h : x ∈ remaining id log) : x ∈ sendings log ∧ x.id = id := by
  obtain ⟨hmem, hid⟩ := List.mem_filter.mp ((remaining_sublist id log).subset h)
  exact ⟨hmem, eq_of_beq hid⟩

/-- A step on another queue takes nothing and adds nothing. -/
theorem remaining_snoc_of_target {id : QueueId} {step : Step} (h : step.command.target ≠ some id)
    (log : List Step) :
    remaining id (log ++ [step]) = remaining id log := by
  obtain ⟨c, outcome⟩ := step
  have hne : ∀ {id'}, c.target = some id' → ¬id' = id := by
    rintro id' htarget rfl
    exact h htarget
  have hclears : Step.clears id ⟨c, outcome⟩ = false := by
    unfold Step.clears
    split
    · next heq => cases heq; simp [hne rfl]
    · next heq => cases heq; simp [hne rfl]
    · next heq => cases heq; simp [hne rfl]
    · rfl
  have hsends : (Step.sends ⟨c, outcome⟩).filter (·.id == id) = [] := by
    unfold Step.sends
    split
    · next heq => cases heq; simp [hne rfl]
    · rfl
  have htakes : ∀ x ∈ remaining id log, Step.takes x ⟨c, outcome⟩ = false := by
    intro x hx
    obtain ⟨-, rfl⟩ := mem_remaining hx
    unfold Step.takes
    split
    · next heq => cases heq; simp [hne rfl]
    · next heq => cases heq; simp [hne rfl]
    · rfl
  rw [remaining_snoc _ _ _ hclears, hsends, List.append_nil]
  exact List.filter_eq_self.mpr fun x hx => by simp [htakes x hx]

section Steps

variable (id : QueueId) (log : List Step)

theorem remaining_refused (c : Command) (e : StoreError) :
    remaining id (log ++ [⟨c, .error e⟩]) = remaining id log := by
  have hclears : Step.clears id ⟨c, .error e⟩ = false := by cases c <;> rfl
  have hsends : Step.sends ⟨c, .error e⟩ = [] := by cases c <;> rfl
  have htakes : ∀ x, Step.takes x ⟨c, .error e⟩ = false := by
    intro x
    cases c <;> rfl
  rw [remaining_snoc _ _ _ hclears, hsends, List.filter_nil, List.append_nil]
  exact List.filter_eq_self.mpr fun x _ => by rw [htakes x]; rfl

theorem remaining_send (now : Int) (message : Message) (queue : Queue) :
    remaining id (log ++ [⟨.send now id message, .ok (.sent (some queue))⟩]) =
      remaining id log ++ [⟨id, queue, now, message⟩] := by
  rw [remaining_snoc _ _ _ rfl]
  congr 1
  · exact List.filter_eq_self.mpr fun x _ => rfl
  · simp [Step.sends]

theorem remaining_receive (now : Int) (handles : Nat → String) (max : Nat) (given : List Message) :
    remaining id (log ++ [⟨.receive now handles id max, .ok (.given given)⟩]) =
      (remaining id log).filter fun x => now < x.expiresAt := by
  rw [remaining_snoc _ _ _ rfl]
  show _ ++ [] = _
  rw [List.append_nil]
  refine List.filter_congr fun x hx => ?_
  obtain ⟨-, rfl⟩ := mem_remaining hx
  show (!(x.id == x.id && decide (x.expiresAt ≤ now))) = _
  rw [beq_self_eq_true, Bool.true_and, ← decide_not]
  exact decide_eq_decide.mpr Int.not_le

theorem remaining_deleteMessage (handle : String) (removed : String) :
    remaining id (log ++ [⟨.deleteMessage id handle, .ok (.removed (some removed))⟩]) =
      (remaining id log).filter (·.message.id != removed) := by
  rw [remaining_snoc _ _ _ rfl]
  show _ ++ [] = _
  rw [List.append_nil]
  refine List.filter_congr fun x hx => ?_
  obtain ⟨-, rfl⟩ := mem_remaining hx
  simp [Step.takes, bne, Bool.beq_comm]

end Steps

/-! ## The invariant -/

/-- The identifiers of the messages that were put into queues. -/
def sentIds (log : List Step) : List String := (sendings log).map (·.message.id)

@[simp] theorem sentIds_append (log more : List Step) :
    sentIds (log ++ more) = sentIds log ++ sentIds more := by
  simp [sentIds]

/-- Sendings are told apart by their identifiers. -/
theorem eq_of_sentIds {log : List Step} {x y : Sending} (hids : (sentIds log).Nodup)
    (hx : x ∈ sendings log) (hy : y ∈ sendings log) (heq : x.message.id = y.message.id) : x = y :=
  List.inj_on_of_nodup_map hids hx hy heq

/-- A message in its queue, as its receipts have left it. -/
def Sending.current (log : List Step) (x : Sending) : HeldMessage :=
  x.after (receipts x.message.id log)

/-- **What a queue holds.** It is what remains of the queue, as the receipts have left it, and all of it
    was taken in under the record that the queue has. -/
structure Holds (log : List Step) (id : QueueId) (q : HeldQueue) : Prop where
  messages : q.messages = (remaining id log).map (Sending.current log)
  recorded : ∀ x ∈ remaining id log, x.queue = q.queue

/-- **What is kept.** Each queue holds what remains of it, and only messages that were put into queues
    were ever handed out. -/
structure Kept (log : List Step) (s : Store) : Prop where
  held : ∀ {id q}, s.held? id = some q → Holds log id q
  known : ∀ r ∈ returned log, r.2.id ∈ sentIds log

/-- A step that tells nothing of a message leaves it as it is. -/
theorem Sending.current_snoc {log : List Step} {step : Step} {x : Sending}
    (hx : receipts x.message.id [step] = []) : x.current (log ++ [step]) = x.current log := by
  rw [Sending.current, receipts_append, hx, List.append_nil]
  rfl

section Holds

variable {log : List Step} {s : Store} {id : QueueId} {q : HeldQueue}

/-- A queue without messages holds what remains where nothing does. -/
theorem Holds.of_remaining_nil {q : HeldQueue} (h : remaining id log = []) (hq : q.messages = []) :
    Holds log id q := by
  refine ⟨?_, ?_⟩
  · rw [h, hq, List.map_nil]
  · intro x hx
    rw [h] at hx
    cases hx

/-- A held message remains of what was put into its queue. -/
theorem Holds.exists_remaining (h : Holds log id q) {y : HeldMessage} (hy : y ∈ q.messages) :
    ∃ x ∈ remaining id log, y = x.current log := by
  rw [h.messages] at hy
  obtain ⟨x, hx, rfl⟩ := List.mem_map.mp hy
  exact ⟨x, hx, rfl⟩

theorem Holds.ids (h : Holds log id q) :
    q.messages.map (·.message.id) = (remaining id log).map (·.message.id) := by
  rw [h.messages, List.map_map]
  exact List.map_congr_left fun x _ => x.after_id _

/-- The identifiers of held messages are distinct if those of all messages are. -/
theorem Holds.ids_nodup (h : Holds log id q) (hids : (sentIds log).Nodup) :
    (q.messages.map (·.message.id)).Nodup := by
  have hsub := ((remaining_sublist id log).trans List.filter_sublist).map (·.message.id)
  exact h.ids ▸ hids.sublist hsub

/-- A step that takes nothing, adds nothing and tells nothing of the queue leaves what it holds. -/
theorem Holds.quiet (h : Holds log id q) {step : Step}
    (hremaining : remaining id (log ++ [step]) = remaining id log)
    (hquiet : ∀ x ∈ remaining id log, receipts x.message.id [step] = []) :
    Holds (log ++ [step]) id q := by
  refine ⟨?_, hremaining ▸ h.recorded⟩
  rw [hremaining, h.messages]
  exact List.map_congr_left fun x hx => (Sending.current_snoc (hquiet x hx)).symm

end Holds

namespace Kept

variable {log : List Step} {s s' : Store} {id : QueueId} {q : HeldQueue}

/-- What a receive hands out remains of what was put into the queue. -/
theorem mem_given (h : Kept log s) (hq : s.held? id = some q) {timeout : Nat} {now : Int}
    {given : List Message} {kept : List HeldMessage}
    (delivery : Delivery timeout now (q.messages.filter fun x => now < x.expiresAt) given kept)
    {m : Message} (hm : m ∈ given) :
    ∃ x ∈ remaining id log, x.message.id = m.id := by
  obtain ⟨y, hy, handle, -, rfl, -⟩ := delivery.mem_given hm
  obtain ⟨x, hx, rfl⟩ := (h.held hq).exists_remaining (List.mem_filter.mp hy).1
  exact ⟨x, hx, by rw [received_id, Sending.current, Sending.after_id]⟩

/-- A granted command on one queue tells nothing of the messages of another. -/
theorem receipts_other (h : Kept log s) (hids : (sentIds log).Nodup) {c : Command} {note : Note}
    (hg : Granted s c note s') {x : Sending} (hx : x ∈ sendings log) (hother : c.target ≠ some x.id) :
    receipts x.message.id [⟨c, .ok note⟩] = [] := by
  refine receipts_eq_nil fun r hr hid => hother ?_
  rw [returned_singleton] at hr
  obtain ⟨handles, id, max, given, heq, hm⟩ := Step.mem_returns hr
  cases heq
  cases hg with
  | receive hq delivery =>
      obtain ⟨y, hy, hyid⟩ := h.mem_given hq delivery hm
      obtain ⟨hmem, rfl⟩ := mem_remaining hy
      rw [eq_of_sentIds hids hx hmem (hid.symm.trans hyid.symm)]
      rfl

/-- A refused command takes nothing, adds nothing and tells nothing. -/
theorem refused (h : Kept log s) (c : Command) (e : StoreError) :
    Kept (log ++ [⟨c, .error e⟩]) s := by
  have hreturns : Step.returns ⟨c, .error e⟩ = [] := by cases c <;> rfl
  refine ⟨?_, ?_⟩
  · intro id q hq
    exact (h.held hq).quiet (remaining_refused ..) fun x _ => receipts_of_returns_nil _ hreturns
  · intro r hr
    rw [returned_append, returned_singleton, hreturns, List.append_nil] at hr
    rw [sentIds_append]
    exact List.mem_append_left _ (h.known r hr)

/-- A granted command on another queue leaves what is held of this one. -/
theorem held_other (h : Kept log s) (hids : (sentIds log).Nodup) {c : Command} {note : Note}
    (hg : Granted s c note s') (hother : c.target ≠ some id) (hq : s'.held? id = some q) :
    Holds (log ++ [⟨c, .ok note⟩]) id q := by
  rw [hg.held?_of_target hother] at hq
  refine (h.held hq).quiet (remaining_snoc_of_target hother log) fun x hx => ?_
  obtain ⟨hmem, rfl⟩ := mem_remaining hx
  exact h.receipts_other hids hg hmem hother

/-- A send adds its message behind the others. -/
theorem held_send (h : Kept log s) {now : Int} {message : Message}
    (hids : (sentIds (log ++ [⟨.send now id message, .ok (.sent (some q.queue))⟩])).Nodup)
    (hq : s.held? id = some q) :
    Holds (log ++ [⟨.send now id message, .ok (.sent (some q.queue))⟩]) id
      { q with messages := q.messages ++ [hold now message q] } := by
  have hquiet : ∀ id' : String,
      receipts id' [⟨.send now id message, .ok (.sent (some q.queue))⟩] = [] :=
    fun id' => receipts_of_returns_nil id' rfl
  -- nothing of the new message is known, as no earlier message has its identifier
  have hnew : receipts message.id log = [] := by
    refine receipts_eq_nil fun r hr heq => ?_
    rw [sentIds_append, List.nodup_append] at hids
    exact hids.2.2 _ (h.known r hr) _ List.mem_cons_self heq
  refine ⟨?_, ?_⟩
  · rw [remaining_send, List.map_append]
    show q.messages ++ _ = _
    rw [(h.held hq).messages]
    congr 1
    · exact List.map_congr_left fun x _ => (Sending.current_snoc (hquiet _)).symm
    · rw [List.map_singleton, Sending.current_snoc (hquiet _), Sending.current, hnew,
        Sending.hold_eq_taken now id]
      rfl
  · intro x hx
    rw [remaining_send, List.mem_append, List.mem_singleton] at hx
    rcases hx with hx | rfl
    · exact (h.held hq).recorded x hx
    · rfl

/-- A receive takes the expired messages, and tells of those that it hands out. -/
theorem held_receive (h : Kept log s) (hids : (sentIds log).Nodup) {now : Int}
    (handles : Nat → String) (max : Nat) {given : List Message} {kept : List HeldMessage}
    (hq : s.held? id = some q)
    (delivery : Delivery q.queue.attributes.visibilityTimeout now
      (q.messages.filter fun x => now < x.expiresAt) given kept) :
    Holds (log ++ [⟨.receive now handles id max, .ok (.given given)⟩]) id
      { q with messages := kept } := by
  have hlive : ((q.messages.filter fun x => now < x.expiresAt).map (·.message.id)).Nodup :=
    ((h.held hq).ids_nodup hids).sublist (List.filter_sublist.map _)
  refine ⟨?_, ?_⟩
  · show kept = _
    rw [delivery.kept_eq_replay hlive, remaining_receive, (h.held hq).messages, List.filter_map,
      List.map_map]
    have hfilter : ((fun x : HeldMessage => decide (now < x.expiresAt)) ∘ Sending.current log) =
        fun x => decide (now < x.expiresAt) := by
      funext x
      rw [Function.comp_apply, Sending.current, Sending.after_expiresAt]
    rw [hfilter]
    refine List.map_congr_left fun x hx => ?_
    rw [Function.comp_apply, Sending.current, Sending.current, Sending.after_id, receipts_append,
      receipts_singleton, Sending.after_append, (h.held hq).recorded x (List.mem_filter.mp hx).1]
    rfl
  · intro x hx
    rw [remaining_receive] at hx
    exact (h.held hq).recorded x (List.mem_filter.mp hx).1

/-- A deletion takes the one message that it found. -/
theorem held_deleteMessage (h : Kept log s) (hids : (sentIds log).Nodup) (handle : String)
    {before after : List HeldMessage} {y : HeldMessage} (hq : s.held? id = some q)
    (split : q.messages = before ++ y :: after) :
    Holds (log ++ [⟨.deleteMessage id handle, .ok (.removed (some y.message.id))⟩]) id
      { q with messages := before ++ after } := by
  have hnodup := (h.held hq).ids_nodup hids
  rw [split, List.map_append, List.map_cons, List.nodup_middle, List.nodup_cons, List.mem_append] at hnodup
  obtain ⟨hunique, -⟩ := hnodup
  -- the other messages are those with another identifier
  have hothers : (before ++ y :: after).filter (·.message.id != y.message.id) = before ++ after := by
    have hkeep : ∀ l : List HeldMessage, y.message.id ∉ l.map (·.message.id) →
        l.filter (·.message.id != y.message.id) = l := by
      intro l hl
      refine List.filter_eq_self.mpr fun x hx => bne_iff_ne.mpr fun heq => hl ?_
      exact heq ▸ List.mem_map_of_mem hx
    rw [List.filter_append, List.filter_cons_of_neg (by simp), hkeep before fun hm => hunique (.inl hm),
      hkeep after fun hm => hunique (.inr hm)]
  refine ⟨?_, ?_⟩
  · show before ++ after = _
    rw [← hothers, ← split, (h.held hq).messages, List.filter_map, remaining_deleteMessage]
    have hfilter : ((·.message.id != y.message.id) ∘ Sending.current log) =
        fun x : Sending => x.message.id != y.message.id := by
      funext x
      rw [Function.comp_apply, Sending.current, Sending.after_id]
    rw [hfilter]
    exact List.map_congr_left fun x _ =>
      (Sending.current_snoc (receipts_of_returns_nil _ rfl)).symm
  · intro x hx
    rw [remaining_deleteMessage] at hx
    exact (h.held hq).recorded x (List.mem_filter.mp hx).1

/-- What a granted command hands out was sent before. -/
theorem known_granted (h : Kept log s) {c : Command} {note : Note} (hg : Granted s c note s') :
    ∀ r ∈ returned (log ++ [⟨c, .ok note⟩]), r.2.id ∈ sentIds (log ++ [⟨c, .ok note⟩]) := by
  intro r hr
  rw [returned_append, returned_singleton, List.mem_append] at hr
  rw [sentIds_append]
  refine List.mem_append_left _ ?_
  rcases hr with hr | hr
  · exact h.known r hr
  · obtain ⟨handles, id, max, given, heq, hm⟩ := Step.mem_returns hr
    cases heq
    cases hg with
    | receive held delivery =>
        obtain ⟨x, hx, hid⟩ := h.mem_given held delivery hm
        exact List.mem_map.mpr ⟨x, (mem_remaining hx).1, hid⟩

/-- A granted command keeps the invariant. -/
theorem granted (h : Kept log s) {c : Command} {note : Note}
    (hids : (sentIds (log ++ [⟨c, .ok note⟩])).Nodup) (hg : Granted s c note s') :
    Kept (log ++ [⟨c, .ok note⟩]) s' := by
  have hids₁ : (sentIds log).Nodup := by
    rw [sentIds_append] at hids
    exact hids.of_append_left
  refine ⟨?_, h.known_granted hg⟩
  intro id q hq
  -- only the queue that the command is on needs the cases
  by_cases hother : c.target ≠ some id
  · exact h.held_other hids₁ hg hother hq
  rw [Decidable.not_not] at hother
  cases hg with
  | lookup => cases hother
  | list => cases hother
  | create =>
      cases hother
      rw [held?_setHeld_self] at hq
      cases hq
      exact .of_remaining_nil (remaining_snoc_of_clears _ _ _ (by simp [Step.clears])) rfl
  | delete =>
      cases hother
      rw [held?_erase, if_pos rfl] at hq
      cases hq
  | send held =>
      cases hother
      rw [held?_setHeld_self] at hq
      cases hq
      exact h.held_send hids held
  | @receive now handles _ max _ _ _ held delivery =>
      cases hother
      rw [held?_setHeld_self] at hq
      cases hq
      exact h.held_receive hids₁ handles max held delivery
  | @deleteMessage _ handle _ _ _ _ held split =>
      cases hother
      rw [held?_setHeld_self] at hq
      cases hq
      exact h.held_deleteMessage hids₁ handle held split
  | purge =>
      cases hother
      rw [held?_setHeld_self] at hq
      cases hq
      exact .of_remaining_nil (remaining_snoc_of_clears _ _ _ (by simp [Step.clears])) rfl

end Kept

/-- Every run whose messages have distinct identifiers keeps what remains. -/
theorem Run.kept {log : List Step} {s : Store} (run : Run log s) (hids : (sentIds log).Nodup) :
    Kept log s := by
  -- the identifiers of a shorter log are distinct too, so that the invariant can assume it of each
  refine Path.invariant (P := fun log s => (sentIds log).Nodup → Kept log s) ?_ ?_ ?_ run hids
  · intro _
    refine ⟨?_, ?_⟩
    · intro id q hq
      cases hq
    · intro r hr
      cases hr
  · intro log s c e past ih hids
    rw [sentIds_append] at hids
    exact (ih hids.of_append_left).refused c e
  · intro log s c note s' onward past ih hg hids
    have hids₁ := hids
    rw [sentIds_append] at hids₁
    exact (ih hids₁.of_append_left).granted hids hg

/-! ## What is gone -/

/-- Behind a step that clears a queue only what was put into it since then remains. -/
theorem remaining_sublist_of_clears {id : QueueId} {ending : Step}
    (h : ending.clears id = true) (before after : List Step) :
    (remaining id (before ++ ending :: after)).Sublist (sendings after) := by
  induction after using List.reverseRecOn with
  | nil =>
      rw [remaining_snoc_of_clears _ _ _ h]
      exact List.nil_sublist _
  | append_singleton after step ih =>
      rw [← List.cons_append, ← List.append_assoc, sendings_append, sendings_singleton]
      cases hclears : step.clears id with
      | true =>
          rw [remaining_snoc_of_clears _ _ _ hclears]
          exact List.nil_sublist _
      | false =>
          rw [remaining_snoc _ _ _ hclears]
          exact (List.filter_sublist.trans ih).append List.filter_sublist

/-- **What is gone stays gone.** A message that was put into a queue before the queue was made, emptied
    or deleted is not handed out afterwards, by whatever queue. -/
theorem Run.not_returned_of_clears {before after : List Step} {ending : Step} {s : Store}
    {id : QueueId} (run : Run (before ++ ending :: after) s)
    (hids : (sentIds (before ++ ending :: after)).Nodup) (hclears : ending.clears id = true)
    {x : Sending} (hx : x ∈ sendings before) (hid : x.id = id) :
    ∀ r ∈ returned after, r.2.id ≠ x.message.id := by
  intro r hr heq
  obtain ⟨step, hstep, hout⟩ := List.mem_flatMap.mp hr
  obtain ⟨earlier, later, rfl⟩ := List.append_of_mem hstep
  rw [← List.cons_append, ← List.append_assoc] at run hids
  -- the store from which the message would be handed out
  obtain ⟨s₁, s₂, run₁, hperform, -⟩ := run.split
  obtain ⟨handles, id', max, given, rfl, hgiven⟩ := Step.mem_returns hout
  have hids₁ : (sentIds (before ++ ending :: earlier)).Nodup := by
    rw [sentIds_append] at hids
    exact hids.of_append_left
  cases perform_ok hperform with
  | receive held delivery =>
      obtain ⟨y, hy, hyid⟩ := (Run.kept run₁ hids₁).mem_given held delivery hgiven
      obtain ⟨hmem, rfl⟩ := mem_remaining hy
      have hx₁ : x ∈ sendings (before ++ ending :: earlier) := by
        rw [sendings_append]
        exact List.mem_append_left _ hx
      obtain rfl : y = x := eq_of_sentIds hids₁ hmem hx₁ (hyid.trans heq)
      subst hid
      -- it would have been sent both before and behind the step that cleared its queue
      have hlate : y ∈ sendings earlier :=
        (remaining_sublist_of_clears hclears before earlier).subset hy
      have htwice : sentIds (before ++ ending :: earlier) =
          sentIds before ++ (sentIds [ending] ++ sentIds earlier) := by
        rw [← List.singleton_append, sentIds_append, sentIds_append]
      rw [htwice, List.nodup_append] at hids₁
      refine hids₁.2.2 _ (List.mem_map_of_mem hx) _ ?_ rfl
      exact List.mem_append_right _ (List.mem_map_of_mem hlate)

/-! ## All runs -/

/-- **Conservation.** In every run whose messages have distinct identifiers each queue holds exactly
    what remains of the messages put into it, each once and in the order in which they were sent; and no
    message is handed out any more once its queue was emptied, deleted or made anew. -/
theorem Run.held_eq_remaining {log : List Step} {s : Store} (run : Run log s)
    (hids : (sentIds log).Nodup) :
    (∀ id q, s.held? id = some q →
      q.messages.map (·.message.letter) =
          (remaining id log).map (·.message.letter) ∧
        (q.messages.map (·.message.id)).Nodup) ∧
      ∀ id before ending after, log = before ++ ending :: after → ending.clears id = true →
        ∀ x ∈ sendings before, x.id = id → ∀ r ∈ returned after, r.2.id ≠ x.message.id := by
  have hkept := run.kept hids
  refine ⟨?_, ?_⟩
  · intro id q hq
    refine ⟨?_, (hkept.held hq).ids_nodup hids⟩
    rw [(hkept.held hq).messages, List.map_map]
    exact List.map_congr_left fun x _ => x.after_letter _
  · rintro id before ending after rfl hclears x hx hid
    exact run.not_returned_of_clears hids hclears hx hid

/-- A queue that is purged after two messages; of the three that follow, one is deleted under the handle
    of its receipt, and one has expired at the second receive. -/
def eventful : List Command :=
  let send (now : Int) (body : String) : Command := .send now (Sample.id "q") (Sample.held body).message
  [.create 0 (Sample.id "q") .standard, send 0 "a", send 0 "b", .purge (Sample.id "q"),
    send 1000 "c", send 2000 "d", send 3000 "e",
    .receive 3000 Sample.occasion.handles (Sample.id "q") 2,
    .deleteMessage (Sample.id "q") "r0", .lookup (Sample.id "p"),
    .receive 345602000 Sample.occasion.handles (Sample.id "q") 0]

/-- Of five messages one is left, and the first is not handed out behind the purge. -/
theorem held_eq_remaining_eventful :
    ∃ log s, Run log s ∧ (sentIds log).Nodup ∧ sentIds log = ["a", "b", "c", "d", "e"] ∧
      (s.held? (Sample.id "q")).map (·.messages.map (·.message.letter)) =
        some [(Sample.held "e").message.letter] ∧
      ∀ r ∈ returned (log.drop 4), r.2.id ≠ "a" := by
  have run : Run (Store.empty.record eventful).1 (Store.empty.record eventful).2 :=
    Path.of_record .empty eventful
  have hids : (sentIds (Store.empty.record eventful).1).Nodup := by decide
  obtain ⟨hheld, hgone⟩ := Run.held_eq_remaining run hids
  have hq : (Store.empty.record eventful).2.held? (Sample.id "q") = some _ := rfl
  refine ⟨_, _, run, hids, rfl, ?_, ?_⟩
  · rw [hq, Option.map_some, (hheld _ _ hq).1]
    rfl
  · exact hgone (Sample.id "q") ((Store.empty.record eventful).1.take 3) _ _ rfl rfl
      ⟨Sample.id "q", Queue.new (Sample.id "q") .standard 0, 0, (Sample.held "a").message⟩ (.head _) rfl

end QueueService.Store
