import Mathlib.Data.List.Nodup
import QueueService.Proofs.Store.Effect

/-!
# Deliveries

What a receive makes of the messages of a queue. `Delivery` says of each of them whether it was handed
out or passed over, without the counting by which the receive comes to a stop; what later modules need
of a receive they take from here, by induction on it.

A message that is handed out keeps its `letter`, and what it has become after any number of receives is
its `replay` over their readings and handles.
-/

namespace QueueService

/-! ## What receives write to -/

namespace Message

/-- A message without its handle and its bookkeeping, which are all that the store writes to. -/
def letter (m : Message) : Message := { m with receiptHandle? := none, bookkeeping := .empty }

/-- The handle of a message, or no text if it has none. -/
def handle (m : Message) : String := m.receiptHandle?.getD ""

/-- Messages with the same letter agree in all that the store does not write to. -/
theorem eq_of_letter {m m' : Message} (h : m.letter = m'.letter) :
    m.id = m'.id ∧ m.body = m'.body ∧ m.bodyDigest = m'.bodyDigest ∧
      m.attributesDigest? = m'.attributesDigest? ∧ m.attributes = m'.attributes := by
  unfold letter at h
  injection h with hid _ hbody hbodyDigest hattributesDigest hattributes
  exact ⟨hid, hbody, hbodyDigest, hattributesDigest, hattributes⟩

theorem id_of_letter {m m' : Message} (h : m.letter = m'.letter) : m.id = m'.id := (eq_of_letter h).1

end Message

namespace Store

@[simp] theorem received_letter (m : Message) (now : Int) (handle : String) :
    (received m now handle).letter = m.letter := by
  dsimp only [received]
  split <;> rfl

@[simp] theorem received_id (m : Message) (now : Int) (handle : String) :
    (received m now handle).id = m.id :=
  Message.id_of_letter (received_letter m now handle)

@[simp] theorem received_handle (m : Message) (now : Int) (handle : String) :
    (received m now handle).handle = handle := rfl

end Store

/-! ## Replays -/

namespace HeldMessage

/-- A held message after a receive at a reading and with a handle, in a queue that hides what is
    received for `timeout` seconds. -/
def returned (timeout : Nat) (x : HeldMessage) (r : Int × String) : HeldMessage :=
  { x with message := Store.received x.message r.1 r.2, visibleAt := r.1 + (timeout : Int) * 1000 }

/-- A held message after receives, in order. -/
def replay (timeout : Nat) (x : HeldMessage) (rs : List (Int × String)) : HeldMessage :=
  rs.foldl (returned timeout) x

variable (timeout : Nat) (x : HeldMessage)

@[simp] theorem replay_nil : x.replay timeout [] = x := rfl

theorem replay_append (rs rs' : List (Int × String)) :
    x.replay timeout (rs ++ rs') = (x.replay timeout rs).replay timeout rs' :=
  List.foldl_append

theorem replay_singleton (r : Int × String) : x.replay timeout [r] = x.returned timeout r := rfl

@[simp] theorem replay_expiresAt (rs : List (Int × String)) :
    (x.replay timeout rs).expiresAt = x.expiresAt := by
  induction rs generalizing x with
  | nil => rfl
  | cons r rest ih => exact ih (x.returned timeout r)

@[simp] theorem replay_letter (rs : List (Int × String)) :
    (x.replay timeout rs).message.letter = x.message.letter := by
  induction rs generalizing x with
  | nil => rfl
  | cons r rest ih => exact (ih (x.returned timeout r)).trans (Store.received_letter ..)

@[simp] theorem replay_id (rs : List (Int × String)) :
    (x.replay timeout rs).message.id = x.message.id :=
  Message.id_of_letter (replay_letter timeout x rs)

end HeldMessage

/-! ## Deliveries -/

namespace Store

/-- **What a receive makes of held messages.** Each is handed out, if it is visible, or passed over. -/
inductive Delivery (timeout : Nat) (now : Int) :
    List HeldMessage → List Message → List HeldMessage → Prop
  | done (held : List HeldMessage) : Delivery timeout now held [] held
  | handed {x : HeldMessage} {rest kept : List HeldMessage} {given : List Message} (handle : String)
      (visible : x.visibleAt ≤ now) (onward : Delivery timeout now rest given kept) :
      Delivery timeout now (x :: rest) (received x.message now handle :: given)
        (x.returned timeout (now, handle) :: kept)
  | passed {x : HeldMessage} {rest kept : List HeldMessage} {given : List Message}
      (onward : Delivery timeout now rest given kept) :
      Delivery timeout now (x :: rest) given (x :: kept)

theorem deliver_delivery {timeout : Nat} {now : Int} {handles : Nat → String} {next max : Nat}
    {held kept : List HeldMessage} {given : List Message}
    (h : deliver now (now + (timeout : Int) * 1000) handles next max held = (given, kept)) :
    Delivery timeout now held given kept := by
  induction held generalizing next max given kept with
  | nil => cases h; exact .done []
  | cons x rest ih =>
      cases max with
      | zero => cases h; exact .done _
      | succ max' =>
          unfold deliver at h
          by_cases hvisible : x.visibleAt ≤ now
          · simp only [if_pos hvisible] at h
            cases h
            exact .handed _ hvisible (ih rfl)
          · simp only [if_neg hvisible] at h
            cases h
            exact .passed (ih rfl)

/-- The handles of a delivery are drawn from those that it was given. -/
theorem deliver_handles {now hidden : Int} {handles : Nat → String} {next max : Nat}
    {held : List HeldMessage} :
    ∀ m ∈ (deliver now hidden handles next max held).1, ∃ i, m.receiptHandle? = some (handles i) := by
  induction held generalizing next max with
  | nil => exact fun _ hm => nomatch hm
  | cons x rest ih =>
      cases max with
      | zero => exact fun _ hm => nomatch hm
      | succ max' =>
          unfold deliver
          by_cases hvisible : x.visibleAt ≤ now
          · simp only [if_pos hvisible, List.forall_mem_cons]
            exact ⟨⟨next, rfl⟩, ih⟩
          · simp only [if_neg hvisible]
            exact ih

namespace Delivery

variable {timeout : Nat} {now : Int} {held kept : List HeldMessage} {given : List Message}

/-- A message that is handed out was visible, and is kept as it was handed out. -/
theorem mem_given (h : Delivery timeout now held given kept) {m : Message} (hm : m ∈ given) :
    ∃ x ∈ held, ∃ handle, x.visibleAt ≤ now ∧ m = received x.message now handle ∧
      x.returned timeout (now, handle) ∈ kept := by
  induction h with
  | done => cases hm
  | @handed x rest kept given handle visible onward ih =>
      rcases List.mem_cons.mp hm with rfl | hm
      · exact ⟨x, List.mem_cons_self, handle, visible, rfl, List.mem_cons_self⟩
      · obtain ⟨y, hy, handle', hvisible, hm, hkept⟩ := ih hm
        exact ⟨y, List.mem_cons_of_mem _ hy, handle', hvisible, hm, List.mem_cons_of_mem _ hkept⟩
  | passed onward ih =>
      obtain ⟨y, hy, handle', hvisible, hm, hkept⟩ := ih hm
      exact ⟨y, List.mem_cons_of_mem _ hy, handle', hvisible, hm, List.mem_cons_of_mem _ hkept⟩

end Delivery

/-! ## Trails

Hand-outs under labels, one label for each message. What a receive makes of a message is told by the
hand-outs under its label; where identifiers are distinct they are such labels.
-/

section Trail

variable {κ : Type} [DecidableEq κ] (a : κ) (outs more : List (κ × Int × Message))

/-- The readings and handles of the hand-outs under a label. -/
def trail : List (Int × String) := (outs.filter (·.1 == a)).map fun o => (o.2.1, o.2.2.handle)

theorem trail_append : trail a (outs ++ more) = trail a outs ++ trail a more := by
  rw [trail, List.filter_append, List.map_append]
  rfl

theorem trail_cons_self (r : Int × Message) :
    trail a ((a, r) :: outs) = (r.1, r.2.handle) :: trail a outs := by
  simp [trail]

theorem mem_trail {o : κ × Int × Message} (h : o ∈ outs) :
    (o.2.1, o.2.2.handle) ∈ trail o.1 outs :=
  List.mem_map.mpr ⟨o, List.mem_filter.mpr ⟨h, beq_self_eq_true _⟩, rfl⟩

variable {a outs}

theorem trail_cons_of_ne {o : κ × Int × Message} (h : o.1 ≠ a) : trail a (o :: outs) = trail a outs := by
  simp [trail, h]

theorem trail_eq_nil (h : a ∉ outs.map (·.1)) : trail a outs = [] := by
  have hnone : outs.filter (·.1 == a) = [] := by
    refine List.filter_eq_nil_iff.mpr fun o ho heq => h ?_
    exact List.mem_map.mpr ⟨o, ho, eq_of_beq heq⟩
  rw [trail, hnone, List.map_nil]

/-- Under distinct labels the trail of a hand-out has that hand-out only. -/
theorem trail_of_mem (h : (outs.map (·.1)).Nodup) {o : κ × Int × Message} (ho : o ∈ outs) :
    trail o.1 outs = [(o.2.1, o.2.2.handle)] := by
  obtain ⟨before, after, rfl⟩ := List.append_of_mem ho
  rw [List.map_append, List.map_cons, List.nodup_middle, List.nodup_cons, List.mem_append] at h
  obtain ⟨hunique, -⟩ := h
  obtain ⟨a, r⟩ := o
  rw [trail_append, trail_eq_nil fun hm => hunique (.inl hm), trail_cons_self,
    trail_eq_nil fun hm => hunique (.inr hm)]
  rfl

/-- Under distinct labels nothing was handed out before under the label of a hand-out. -/
theorem trail_take_eq_nil (h : (outs.map (·.1)).Nodup) {i : Nat} {o : κ × Int × Message}
    (hi : outs[i]? = some o) : trail o.1 (outs.take i) = [] := by
  refine trail_eq_nil fun hmem => ?_
  rw [List.map_take] at hmem
  obtain ⟨j, hj, heq⟩ := List.mem_take_iff_getElem.mp hmem
  have hlabel : (outs.map (·.1))[i]? = some o.1 := by rw [List.getElem?_map, hi]; rfl
  obtain ⟨hlt, -⟩ := List.getElem?_eq_some_iff.mp hlabel
  have hearlier : (outs.map (·.1))[j]? = some o.1 := heq ▸ List.getElem?_eq_getElem (by omega)
  exact List.nodup_iff_getElem?_ne_getElem?.mp h j i (by omega) hlt (hearlier.trans hlabel.symm)

/-- **Each message by its own trail.** What a delivery hands out can be put under the labels of the
    messages that it was given, so that their trails tell what it made of them. -/
theorem Delivery.exists_outs {ι : Type} {label : ι → κ} {body : ι → HeldMessage} {timeout : Nat}
    {now : Int} {marked : List ι} {given : List Message} {kept : List HeldMessage}
    (h : Delivery timeout now (marked.map body) given kept) (hlabels : (marked.map label).Nodup) :
    ∃ outs : List (κ × Int × Message), outs.map (·.2) = given.map (now, ·) ∧
      (outs.map (·.1)).Sublist (marked.map label) ∧
      (kept = marked.map fun p => (body p).replay timeout (trail (label p) outs)) ∧
      ∀ o ∈ outs, ∃ p ∈ marked, label p = o.1 ∧ (body p).visibleAt ≤ now ∧
        ∃ handle, o.2.2 = received (body p).message now handle := by
  generalize hheld : marked.map body = held at h
  induction h generalizing marked with
  | done held =>
      subst hheld
      exact ⟨[], rfl, List.nil_sublist _, rfl, fun o ho => absurd ho List.not_mem_nil⟩
  | @handed x rest kept given handle visible onward ih =>
      obtain ⟨p, marked, rfl, rfl, rfl⟩ := List.map_eq_cons_iff.mp hheld
      rw [List.map_cons, List.nodup_cons] at hlabels
      obtain ⟨hnew, hlabels⟩ := hlabels
      obtain ⟨outs, hgiven, hsub, rfl, hreceived⟩ := ih hlabels rfl
      have hfresh : label p ∉ outs.map (·.1) := fun hmem => hnew (hsub.subset hmem)
      refine ⟨(label p, now, received (body p).message now handle) :: outs, ?_,
        hsub.cons_cons (label p), ?_, ?_⟩
      · rw [List.map_cons, List.map_cons, hgiven]
      · rw [List.map_cons]
        congr 1
        · -- the message handed out has its one hand-out
          rw [trail_cons_self, trail_eq_nil hfresh, received_handle, HeldMessage.replay_singleton]
        · -- and the others have none of it
          refine List.map_congr_left fun p' hp' => ?_
          have hne : label p ≠ label p' := by
            intro heq
            exact hnew (heq ▸ List.mem_map_of_mem hp')
          rw [trail_cons_of_ne hne]
      · intro o ho
        rcases List.mem_cons.mp ho with rfl | ho
        · exact ⟨p, List.mem_cons_self, rfl, visible, handle, rfl⟩
        · obtain ⟨p', hp', hlabel, hvisible, hm⟩ := hreceived o ho
          exact ⟨p', List.mem_cons_of_mem _ hp', hlabel, hvisible, hm⟩
  | @passed x rest kept given onward ih =>
      obtain ⟨p, marked, rfl, rfl, rfl⟩ := List.map_eq_cons_iff.mp hheld
      rw [List.map_cons, List.nodup_cons] at hlabels
      obtain ⟨hnew, hlabels⟩ := hlabels
      obtain ⟨outs, hgiven, hsub, rfl, hreceived⟩ := ih hlabels rfl
      have hfresh : label p ∉ outs.map (·.1) := fun hmem => hnew (hsub.subset hmem)
      refine ⟨outs, hgiven, hsub.cons _, ?_, ?_⟩
      · rw [List.map_cons, trail_eq_nil hfresh, HeldMessage.replay_nil]
      · intro o ho
        obtain ⟨p', hp', hlabel, hvisible, hm⟩ := hreceived o ho
        exact ⟨p', List.mem_cons_of_mem _ hp', hlabel, hvisible, hm⟩

end Trail

/-- What was handed out, each message under its identifier. -/
def byId (outs : List (Int × Message)) : List (String × Int × Message) := outs.map fun r => (r.2.id, r)

/-- Where identifiers are distinct, the trail of a message under its identifier tells what a delivery
    made of it. -/
theorem Delivery.kept_eq_replay {timeout : Nat} {now : Int} {held kept : List HeldMessage}
    {given : List Message} (h : Delivery timeout now held given kept)
    (hids : (held.map (·.message.id)).Nodup) :
    kept = held.map fun x => x.replay timeout (trail x.message.id (byId (given.map (now, ·)))) := by
  obtain ⟨outs, hgiven, -, hkept, hreceived⟩ := ((List.map_id held).symm ▸ h).exists_outs hids
  -- every hand-out stands under the identifier of its message
  have houts : outs = byId (given.map (now, ·)) := by
    rw [← hgiven, byId, List.map_map]
    refine (List.map_id outs).symm.trans (List.map_congr_left fun o ho => ?_)
    obtain ⟨y, -, hid, -, handle, hm⟩ := hreceived o ho
    show o = (o.2.2.id, o.2)
    rw [hm, received_id, id_eq, hid]
  rw [hkept, houts]
  rfl

end Store

end QueueService
