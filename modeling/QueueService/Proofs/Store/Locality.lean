import Mathlib
import QueueService.Proofs.Store.Listing

/-!
# What the operations of the store depend on

An operation looks at the queue that it is aimed at and at no other. So two stores that hold the same of
a set of queues with that queue in it are in step (`InStep`): both refuse, for the same reason, or both
give the same answer and hold the same of the set again. The set is one queue, all queues of an account,
or whatever a client can see.
-/

namespace QueueService.Store

variable {α : Type} {P : QueueId → Prop} {s s' : Store} {id : QueueId}

/-- The stores hold the same of the queues in a set. -/
def SameOn (P : QueueId → Prop) (s s' : Store) : Prop := ∀ ⦃id⦄, P id → s'.held? id = s.held? id

theorem SameOn.refl (P : QueueId → Prop) (s : Store) : SameOn P s s := fun _ _ => rfl

theorem SameOn.trans {s'' : Store} (h : SameOn P s s') (h' : SameOn P s' s'') : SameOn P s s'' :=
  fun _ hid => (h' hid).trans (h hid)

theorem SameOn.setHeld (h : SameOn P s s') (id : QueueId) (q : HeldQueue) :
    SameOn P (s.setHeld id q) (s'.setHeld id q) := by
  intro id' hid'
  rw [held?_setHeld, held?_setHeld, h hid']

theorem SameOn.erase (h : SameOn P s s') (id : QueueId) :
    SameOn P ⟨s.queues.erase id⟩ ⟨s'.queues.erase id⟩ := by
  intro id' hid'
  rw [held?_erase, held?_erase, h hid']

theorem SameOn.lookup? (h : SameOn P s s') (hid : P id) : s'.lookup? id = s.lookup? id := by
  rw [Store.lookup?, Store.lookup?, h hid]

/-- **In step.** Both outcomes are refusals for the same reason, or both are the same answer and the
    stores hold the same of the queues in the set. -/
inductive InStep (P : QueueId → Prop) :
    Except StoreError (α × Store) → Except StoreError (α × Store) → Prop
  | granted (a : α) {t t' : Store} (same : SameOn P t t') : InStep P (.ok (a, t)) (.ok (a, t'))
  | refused (e : StoreError) : InStep P (.error e) (.error e)

/-! ## Operations on one queue -/

theorem SameOn.withQueue (h : SameOn P s s') (hid : P id)
    (act : HeldQueue → Except StoreError (α × HeldQueue)) :
    InStep P (s.withQueue id act) (s'.withQueue id act) := by
  unfold Store.withQueue
  rw [h hid]
  cases s.held? id with
  | none => exact .refused _
  | some q =>
      rcases hact : act q with e | ⟨a, q'⟩
      · simp only [hact]
        exact .refused e
      · simp only [hact]
        exact .granted a (h.setHeld id q')

theorem SameOn.create (h : SameOn P s s') (hid : P id) (now : Int) (attributes : QueueAttributes) :
    InStep P (s.create now id attributes) (s'.create now id attributes) := by
  unfold Store.create
  rw [h hid]
  cases s.held? id with
  | none => exact .granted _ (h.setHeld id _)
  | some q => exact .refused _

theorem SameOn.delete (h : SameOn P s s') (hid : P id) : InStep P (s.delete id) (s'.delete id) := by
  unfold Store.delete
  rw [h hid]
  cases s.held? id with
  | none => exact .refused _
  | some q => exact .granted () (h.erase id)

/-! ## Listings -/

/-- The entries of a listing are those that can be looked up. -/
theorem SameOn.list {account : String} (h : SameOn P s s') (haccount : ∀ id, id.account = account → P id)
    (start : String) : s'.list account start = s.list account start := by
  have hlisted : (s'.queues.filter fun id _ => isListed account start id) =
      s.queues.filter fun id _ => isListed account start id := by
    apply Dict.ext_find?
    intro id
    rw [Dict.find?_filter, Dict.find?_filter]
    by_cases hid : isListed account start id = true
    · rw [if_pos hid, if_pos hid]
      exact h (haccount id (isListed_iff.mp hid).1)
    · rw [if_neg hid, if_neg hid]
  rw [list_eq_filter, list_eq_filter]
  exact congrArg (fun d : Dict QueueId HeldQueue => d.entries.map fun e => e.2.queue) hlisted

end QueueService.Store
