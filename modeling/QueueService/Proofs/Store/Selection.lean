import QueueService.Proofs.Operation
import QueueService.Proofs.Store.Delivery

/-!
# Selection

Which messages a receive hands out. It is asked for a number of them, and takes the first that are neither
expired nor hidden; the others that are not expired stay where they are, as they are. `Delivery` leaves the
counting out, and it is what this module is about: a message is handed out if fewer visible messages than
were asked for stand before it, and their number is that of its handle.

* `deliver_given`, `getElem?_deliver_kept` — what is handed out, and what becomes of each place.
* `receive_selects` — the statement for the store.
-/

namespace QueueService

namespace HeldMessage

/-- Whether a message is not expired at a reading. -/
def isLive (now : Int) (x : HeldMessage) : Bool := now < x.expiresAt

/-- Whether a message is not hidden at a reading. -/
def isVisible (now : Int) (x : HeldMessage) : Bool := x.visibleAt ≤ now

end HeldMessage

namespace Store

/-- How many visible messages stand before a place. -/
def visibleBefore (now : Int) (held : List HeldMessage) (place : Nat) : Nat :=
  (held.take place).countP (·.isVisible now)

/-- A message at a place after a receive of up to `max` messages: handed out, if it is visible and not too
    many visible ones stand before it, and otherwise as it was. -/
def selected (timeout : Nat) (now : Int) (handles : Nat → String) (max before : Nat) (x : HeldMessage) :
    HeldMessage :=
  if x.isVisible now ∧ before < max then x.returned timeout (now, handles before) else x

/-! ## Deliveries -/

section Deliver

variable (timeout : Nat) (now : Int) (handles : Nat → String)

@[simp] theorem visibleBefore_zero (held : List HeldMessage) : visibleBefore now held 0 = 0 := rfl

theorem visibleBefore_succ (x : HeldMessage) (rest : List HeldMessage) (place : Nat) :
    visibleBefore now (x :: rest) (place + 1) =
      visibleBefore now rest place + if x.isVisible now then 1 else 0 := by
  rw [visibleBefore, List.take_succ_cons, List.countP_cons, visibleBefore]

/-- **What is handed out:** the first of the visible messages, with one handle after the other. -/
theorem deliver_given (hidden : Int) (next max : Nat) (held : List HeldMessage) :
    (deliver now hidden handles next max held).1 =
      ((held.filter (·.isVisible now)).take max).mapIdx fun i x =>
        received x.message now (handles (next + i)) := by
  induction held generalizing next max with
  | nil => rw [List.filter_nil, List.take_nil]; rfl
  | cons x rest ih =>
      cases max with
      | zero => rfl
      | succ max =>
          unfold deliver
          by_cases hvisible : x.visibleAt ≤ now
          · have hx : x.isVisible now = true := decide_eq_true hvisible
            rw [List.filter_cons_of_pos hx, List.take_succ_cons, List.mapIdx_cons]
            simp only [if_pos hvisible, ih, Nat.add_zero, Nat.add_assoc, Nat.add_comm 1]
          · have hx : ¬ x.isVisible now = true := by simpa [HeldMessage.isVisible] using hvisible
            rw [List.filter_cons_of_neg hx]
            simp only [if_neg hvisible, ih]

/-- **What becomes of each place.** It keeps its message, which is handed out or not. -/
theorem getElem?_deliver_kept (next max : Nat) (held : List HeldMessage) (place : Nat) :
    (deliver now (now + (timeout : Int) * 1000) handles next max held).2[place]? =
      held[place]?.map
        (selected timeout now (fun i => handles (next + i)) max (visibleBefore now held place)) := by
  -- the handles are counted from where the messages before the list have left them
  induction held generalizing next max place with
  | nil => rfl
  | cons x rest ih =>
      cases max with
      | zero =>
          rw [deliver]
          cases (x :: rest)[place]? with
          | none => rfl
          | some y => rw [Option.map_some, selected, if_neg (fun h => Nat.not_lt_zero _ h.2)]
      | succ max =>
          unfold deliver
          by_cases hvisible : x.visibleAt ≤ now
          · have hx : x.isVisible now = true := decide_eq_true hvisible
            simp only [if_pos hvisible]
            cases place with
            | zero =>
                rw [List.getElem?_cons_zero, List.getElem?_cons_zero, Option.map_some, selected,
                  visibleBefore_zero, if_pos ⟨hx, Nat.succ_pos max⟩]
                rfl
            | succ place =>
                rw [List.getElem?_cons_succ, List.getElem?_cons_succ, ih, visibleBefore_succ, if_pos hx]
                congr 1
                funext y
                simp only [selected, Nat.add_lt_add_iff_right, Nat.add_assoc, Nat.add_comm 1]
          · have hx : ¬ x.isVisible now = true := by simpa [HeldMessage.isVisible] using hvisible
            simp only [if_neg hvisible]
            cases place with
            | zero =>
                rw [List.getElem?_cons_zero, List.getElem?_cons_zero, Option.map_some, selected,
                  if_neg (fun h => hx h.1)]
            | succ place =>
                rw [List.getElem?_cons_succ, List.getElem?_cons_succ, ih, visibleBefore_succ, if_neg hx]
                rfl

theorem deliver_kept (max : Nat) (held : List HeldMessage) :
    (deliver now (now + (timeout : Int) * 1000) handles 0 max held).2 =
      held.mapIdx fun place => selected timeout now handles max (visibleBefore now held place) := by
  refine List.ext_getElem? fun place => ?_
  rw [getElem?_deliver_kept, List.getElem?_mapIdx]
  simp only [Nat.zero_add]

end Deliver

/-! ## Receives -/

/-- **The selection** that a receive makes among the messages of a queue.

    The first of those that are neither expired nor hidden are handed out, as many as were asked for, in the
    order in which they are held, which is that of sending, and each once. Those that are not expired stay,
    in their order; of these the ones that were handed out have a new handle and are hidden for the timeout
    of the queue, and the others are untouched. -/
structure Selection (timeout : Nat) (now : Int) (handles : Nat → String) (max : Nat)
    (held : List HeldMessage) (given : List Message) (kept : List HeldMessage) : Prop where
  first : given =
    ((held.filter fun x => x.isLive now && x.isVisible now).take max).mapIdx fun i x =>
      received x.message now (handles i)
  count : given.length = min max (held.countP fun x => x.isLive now && x.isVisible now)
  once : (given.map (·.letter)).Sublist (held.map (·.message.letter))
  live : kept.length = held.countP (·.isLive now)
  handedOut : ∀ place x, (held.filter (·.isLive now))[place]? = some x → x.isVisible now = true →
    visibleBefore now (held.filter (·.isLive now)) place < max →
      kept[place]? = some (x.returned timeout
        (now, handles (visibleBefore now (held.filter (·.isLive now)) place)))
  untouched : ∀ place x, (held.filter (·.isLive now))[place]? = some x →
    (x.isVisible now = false ∨ max ≤ visibleBefore now (held.filter (·.isLive now)) place) →
      kept[place]? = some x

theorem selection_deliver (timeout : Nat) (now : Int) (handles : Nat → String) (max : Nat)
    (held : List HeldMessage) :
    let delivered :=
      deliver now (now + (timeout : Int) * 1000) handles 0 max (held.filter (·.isLive now))
    Selection timeout now handles max held delivered.1 delivered.2 := by
  have hdue : (held.filter (·.isLive now)).filter (·.isVisible now) =
      held.filter fun x => x.isLive now && x.isVisible now := by
    rw [List.filter_filter]
    simp only [Bool.and_comm]
  have hgiven := deliver_given now handles (now + (timeout : Int) * 1000) 0 max (held.filter (·.isLive now))
  have hkept := deliver_kept timeout now handles max (held.filter (·.isLive now))
  simp only [hdue, Nat.zero_add] at hgiven
  refine ⟨hgiven, ?_, ?_, ?_, ?_, ?_⟩
  · rw [hgiven, List.length_mapIdx, List.length_take, List.countP_eq_length_filter]
  · -- a message that is handed out keeps its letter
    have hletters : ∀ due : List HeldMessage,
        (due.mapIdx fun i x => received x.message now (handles i)).map (·.letter) =
          due.map (·.message.letter) := by
      intro due
      refine List.ext_getElem? fun i => ?_
      rw [List.getElem?_map, List.getElem?_mapIdx, List.getElem?_map, Option.map_map]
      simp only [Function.comp_def, received_letter]
    rw [hgiven, hletters]
    exact ((List.take_sublist _ _).trans List.filter_sublist).map _
  · rw [hkept, List.length_mapIdx, List.countP_eq_length_filter]
  · intro place x hx hvisible hbefore
    rw [hkept, List.getElem?_mapIdx, hx, Option.map_some, selected, if_pos ⟨hvisible, hbefore⟩]
  · intro place x hx hleft
    rw [hkept, List.getElem?_mapIdx, hx, Option.map_some, selected, if_neg ?_]
    rintro ⟨hvisible, hbefore⟩
    rcases hleft with hhidden | hlate
    · rw [hhidden] at hvisible
      cases hvisible
    · exact Nat.not_lt_of_le hlate hbefore

/-- **Receiving.** Of a queue that the store holds, a receive hands out a selection of the messages, and the
    store holds the rest of the queue as it was. -/
theorem receive_selects {s : Store} {id : QueueId} {q : HeldQueue} (hq : s.held? id = some q) (now : Int)
    (handles : Nat → String) (max : Nat) :
    ∃ given kept, s.receive now handles id max = .ok (given, s.setHeld id { q with messages := kept }) ∧
      Selection q.queue.attributes.visibilityTimeout now handles max q.messages given kept := by
  refine ⟨_, _, ?_, selection_deliver ..⟩
  rw [receive, withQueue, hq]
  rfl

/-- A queue at the reading 5000: one message expires just then, one is visible from then on, one is hidden for
    another millisecond, and there are three more. -/
def mixedMessages : List HeldMessage :=
  [{ Sample.held "a" with expiresAt := 5000 }, { Sample.held "b" with visibleAt := 5000 },
    { Sample.held "c" with visibleAt := 5001 }, Sample.held "d", Sample.held "e"]

/-- Two of its messages are asked for. -/
theorem receive_selects_mixed :
    ∃ given kept,
      (Sample.store "q" mixedMessages).receive 5000 Sample.occasion.handles (Sample.id "q") 2 =
          .ok (given, Sample.store "q" kept) ∧
        Selection 30 5000 Sample.occasion.handles 2 mixedMessages given kept ∧
        given.map (fun m => (m.id, m.handle)) = [("b", "r0"), ("d", "r1")] ∧
        kept.map (fun x => (x.message.id, x.visibleAt)) =
          [("b", 35000), ("c", 5001), ("d", 35000), ("e", 0)] := by
  have hq : (Sample.store "q" mixedMessages).held? (Sample.id "q") =
      some { queue := Queue.new (Sample.id "q") .standard 0, messages := mixedMessages } := rfl
  obtain ⟨given, kept, hrun, hselection⟩ := receive_selects hq 5000 Sample.occasion.handles 2
  have hkept : some kept = some _ := congrArg (fun answer =>
    answer.toOption.bind fun r => (r.2.held? (Sample.id "q")).map (·.messages)) hrun.symm
  refine ⟨given, kept, hrun, hselection, ?_, ?_⟩
  · rw [hselection.first]
    decide
  · rw [Option.some.inj hkept]
    decide

end Store

end QueueService
