import QueueService.Proofs.Store.Run

/-!
# Traces

Every message that is handed out goes back to one that was sent, also where identifiers are repeated.
Sends are numbered in the order of the log, and a trace puts each hand-out under the number of its send:
the trail of a number then has the readings and handles of all that became of the message. `Traced` is
the invariant. Under it each queue holds messages as their trails have left them, and each hand-out was
due when it was made.

* `Run.exists_traced` — every run has a trace.
* `Timely.window` — what it means for hand-outs to be due.
-/

namespace QueueService.Store

/-- Hand-outs, each under the number of the send that it goes back to. -/
abbrev Outs : Type := List (Nat × Int × Message)

/-! ## Due hand-outs -/

/-- Readings at which a message was handed out, each at a time when the message was visible. -/
inductive Timely (x : Sending) : List (Int × String) → Prop
  | unseen : Timely x []
  | again {rs : List (Int × String)} {r : Int × String} (past : Timely x rs)
      (visible : (x.after rs).visibleAt ≤ r.1) : Timely x (rs ++ [r])

/-- A receive hides a message for the timeout of its queue. -/
theorem after_snoc_visibleAt (x : Sending) (rs : List (Int × String)) (r : Int × String) :
    (x.after (rs ++ [r])).visibleAt = r.1 + (x.queue.attributes.visibilityTimeout : Int) * 1000 := by
  rw [Sending.after_append, HeldMessage.replay_singleton]
  rfl

/-- **The window of a message.** A message that was always due is hidden until its delay is over, and for
    the timeout of its queue behind every hand-out. -/
theorem Timely.window {x : Sending} {rs : List (Int × String)} (h : Timely x rs) :
    x.visibleAt ≤ (x.after rs).visibleAt ∧
      ∀ r ∈ rs, r.1 + (x.queue.attributes.visibilityTimeout : Int) * 1000 ≤
        (x.after rs).visibleAt := by
  induction h with
  | unseen =>
      refine ⟨Int.le_refl _, fun r hr => ?_⟩
      cases hr
  | @again rs last past visible ih =>
      obtain ⟨hdelay, hhidden⟩ := ih
      rw [after_snoc_visibleAt]
      refine ⟨by omega, fun r hr => ?_⟩
      rcases List.mem_append.mp hr with hr | hr
      · have hearlier := hhidden r hr
        omega
      · obtain rfl := List.mem_singleton.mp hr
        exact Int.le_refl _

/-! ## The invariant -/

/-- **The receive behind a hand-out.** It stands in the log behind the send of the message, it found the
    queue with the record that the queue had at the send, and it left the message in the queue as it was
    handed out. -/
structure Source (log earlier : List Step) (s₁ s₂ : Store) (n : Nat) (now : Int) (m : Message)
    (x : Sending) : Prop where
  reached : Run earlier s₁
  step : ∃ handles max given,
    earlier ++ [⟨.receive now handles x.id max, .ok (.given given)⟩] <+: log ∧
      Run (earlier ++ [⟨.receive now handles x.id max, .ok (.given given)⟩]) s₂ ∧ m ∈ given
  sent : (sendings earlier)[n]? = some x
  record : s₁.lookup? x.id = some x.queue
  kept : ∃ q y, s₂.held? x.id = some q ∧ y ∈ q.messages ∧ y.message = m

/-- **One hand-out.** The message was due and not expired, and it was handed out as its trail had left
    it, received once more. -/
structure Handed (log : List Step) (before : Outs) (n : Nat) (now : Int) (m : Message) (x : Sending) :
    Prop where
  source : ∃ earlier s₁ s₂, Source log earlier s₁ s₂ n now m x
  timely : Timely x (trail n before)
  visible : (x.after (trail n before)).visibleAt ≤ now
  live : now < x.expiresAt
  received : ∃ handle, m = received (x.after (trail n before)).message now handle

/-- **What a queue holds.** Its messages are numbered sends to it, each as its trail has left it. -/
def Follows (log : List Step) (outs : Outs) (id : QueueId) (q : HeldQueue) : Prop :=
  ∃ marked : List (Nat × Sending), (marked.map (·.1)).Nodup ∧
    q.messages = marked.map (fun p => p.2.after (trail p.1 outs)) ∧
    ∀ p ∈ marked, (sendings log)[p.1]? = some p.2 ∧ p.2.id = id ∧ p.2.queue = q.queue ∧
      Timely p.2 (trail p.1 outs)

/-- **Due.** The hand-out is of a message of the queue, which is visible and not expired, as its trail has
    left it. -/
structure Due (log : List Step) (outs : Outs) (id : QueueId) (q : HeldQueue) (now : Int)
    (o : Nat × Int × Message) (x : Sending) : Prop where
  sent : (sendings log)[o.1]? = some x
  id : x.id = id
  queue : x.queue = q.queue
  timely : Timely x (trail o.1 outs)
  visible : (x.after (trail o.1 outs)).visibleAt ≤ now
  live : now < x.expiresAt
  received : ∃ handle, o.2.2 = received (x.after (trail o.1 outs)).message now handle

/-- **Traced.** The hand-outs of the log are those of the trace, and queues hold what the trace tells. -/
structure Traced (log : List Step) (outs : Outs) (s : Store) : Prop where
  told : outs.map (·.2) = returned log
  handed : ∀ {i n now m}, outs[i]? = some (n, now, m) → ∃ x, Handed log (outs.take i) n now m x
  held : ∀ {id q}, s.held? id = some q → Follows log outs id q

section Sends

variable {log more : List Step} {n : Nat} {x : Sending}

/-- Later steps do not change the numbers of sends. -/
theorem sendings_append_getElem? (h : (sendings log)[n]? = some x) (more : List Step) :
    (sendings (log ++ more))[n]? = some x := by
  obtain ⟨hlt, -⟩ := List.getElem?_eq_some_iff.mp h
  rw [sendings_append, List.getElem?_append_left hlt, h]

theorem Handed.append {before : Outs} {now : Int} {m : Message} (h : Handed log before n now m x)
    (more : List Step) : Handed (log ++ more) before n now m x := by
  obtain ⟨earlier, s₁, s₂, hsource⟩ := h.source
  obtain ⟨handles, max, given, hprefix, hrest⟩ := hsource.step
  refine { h with source := ⟨earlier, s₁, s₂, { hsource with step := ?_ }⟩ }
  exact ⟨handles, max, given, hprefix.trans (List.prefix_append ..), hrest⟩

/-- A message that was handed out was sent. -/
theorem Handed.sent {before : Outs} {now : Int} {m : Message} (h : Handed log before n now m x) :
    (sendings log)[n]? = some x := by
  obtain ⟨earlier, s₁, s₂, hsource⟩ := h.source
  obtain ⟨handles, max, given, ⟨rest, rfl⟩, -⟩ := hsource.step
  rw [List.append_assoc]
  exact sendings_append_getElem? hsource.sent _

end Sends

namespace Follows

variable {log : List Step} {outs : Outs} {id : QueueId} {q : HeldQueue}

/-- A queue without messages follows any trace. -/
theorem of_nil (h : q.messages = []) : Follows log outs id q :=
  ⟨[], List.nodup_nil, h, fun _ hp => absurd hp List.not_mem_nil⟩

theorem append (h : Follows log outs id q) (more : List Step) : Follows (log ++ more) outs id q := by
  obtain ⟨marked, hnodup, hmessages, hmarked⟩ := h
  refine ⟨marked, hnodup, hmessages, fun p hp => ?_⟩
  obtain ⟨hsent, hrest⟩ := hmarked p hp
  exact ⟨sendings_append_getElem? hsent more, hrest⟩

/-- A queue that has lost messages still follows. -/
theorem sublist (h : Follows log outs id q) {messages : List HeldMessage}
    (hsub : messages.Sublist q.messages) : Follows log outs id { q with messages } := by
  obtain ⟨marked, hnodup, hmessages, hmarked⟩ := h
  rw [hmessages] at hsub
  obtain ⟨marked', hsub', rfl⟩ := List.sublist_map_iff.mp hsub
  exact ⟨marked', hnodup.sublist (hsub'.map _), rfl, fun p hp => hmarked p (hsub'.subset hp)⟩

/-- Hand-outs of other queues change nothing. -/
theorem other (h : Follows log outs id q) {new : Outs}
    (hnew : ∀ o ∈ new, ∃ x, (sendings log)[o.1]? = some x ∧ x.id ≠ id) :
    Follows log (outs ++ new) id q := by
  obtain ⟨marked, hnodup, hmessages, hmarked⟩ := h
  have hquiet : ∀ p ∈ marked, trail p.1 (outs ++ new) = trail p.1 outs := by
    intro p hp
    have hnil : trail p.1 new = [] := by
      -- a number goes back to one send, and so to one queue
      refine trail_eq_nil fun hmem => ?_
      obtain ⟨o, ho, heq⟩ := List.mem_map.mp hmem
      obtain ⟨x, hx, hother⟩ := hnew o ho
      obtain ⟨hsent, hid, -⟩ := hmarked p hp
      rw [heq, hsent] at hx
      cases hx
      exact hother hid
    rw [trail_append, hnil, List.append_nil]
  refine ⟨marked, hnodup, ?_, fun p hp => ?_⟩
  · rw [hmessages]
    exact List.map_congr_left fun p hp => by rw [hquiet p hp]
  · rw [hquiet p hp]
    exact hmarked p hp

/-- What a delivery hands out can be put under the numbers of the messages that it was given, so that the
    queue follows the longer trace. -/
theorem exists_outs (h : Follows log outs id q) {now : Int} {given : List Message}
    {kept : List HeldMessage}
    (delivery : Delivery q.queue.attributes.visibilityTimeout now
      (q.messages.filter fun x => now < x.expiresAt) given kept) :
    ∃ new : Outs, new.map (·.2) = given.map (now, ·) ∧ (new.map (·.1)).Nodup ∧
      Follows log (outs ++ new) id { q with messages := kept } ∧
      ∀ o ∈ new, ∃ x, Due log outs id q now o x := by
  obtain ⟨marked, hnodup, hmessages, hmarked⟩ :=
    h.sublist (List.filter_sublist : (q.messages.filter fun x => now < x.expiresAt).Sublist _)
  have hlive : marked.map (fun p => p.2.after (trail p.1 outs)) =
      q.messages.filter fun x => now < x.expiresAt := hmessages.symm
  rw [← hlive] at delivery
  obtain ⟨new, hgiven, hsub, hkept, hreceived⟩ := delivery.exists_outs hnodup
  have hnew : (new.map (·.1)).Nodup := hnodup.sublist hsub
  have hdue : ∀ o ∈ new, ∃ x, (o.1, x) ∈ marked ∧ Due log outs id q now o x := by
    rintro ⟨n, r⟩ ho
    obtain ⟨⟨n, x⟩, hp, rfl, hvisible, handle, hm⟩ := hreceived _ ho
    have hunexpired : x.after (trail n outs) ∈ q.messages.filter fun x => now < x.expiresAt :=
      hlive ▸ List.mem_map.mpr ⟨_, hp, rfl⟩
    obtain ⟨hsent, hid, hqueue, htimely⟩ := hmarked _ hp
    refine ⟨x, hp, hsent, hid, hqueue, htimely, hvisible, ?_, handle, hm⟩
    rw [← Sending.after_expiresAt x (trail n outs)]
    simpa using (List.mem_filter.mp hunexpired).2
  refine ⟨new, hgiven, hnew, ⟨marked, hnodup, ?_, ?_⟩, fun o ho => ?_⟩
  · show kept = _
    rw [hkept]
    refine List.map_congr_left fun p hp => ?_
    obtain ⟨-, -, hqueue, -⟩ := hmarked p hp
    rw [trail_append, Sending.after_append, hqueue]
  · intro p hp
    obtain ⟨hsent, hid, hqueue, htimely⟩ := hmarked p hp
    refine ⟨hsent, hid, hqueue, ?_⟩
    rw [trail_append]
    by_cases hmem : p.1 ∈ new.map (·.1)
    · -- handed out once more, at a time when it was visible
      obtain ⟨o, ho, hlabel⟩ := List.mem_map.mp hmem
      obtain ⟨x, hx, hdue⟩ := hdue o ho
      obtain rfl := List.inj_on_of_nodup_map hnodup hx hp hlabel
      have hnow : o.2.1 = now := by
        have htold : o.2 ∈ given.map (now, ·) := hgiven ▸ List.mem_map_of_mem ho
        obtain ⟨m, -, heq⟩ := List.mem_map.mp htold
        rw [← heq]
      rw [trail_of_mem hnew ho]
      exact htimely.again (hnow ▸ hdue.visible)
    · rw [trail_eq_nil hmem, List.append_nil]
      exact htimely
  · obtain ⟨x, -, hx⟩ := hdue o ho
    exact ⟨x, hx⟩

end Follows

namespace Traced

variable {log : List Step} {outs : Outs} {s s' : Store} {id : QueueId} {q : HeldQueue}

/-- Every hand-out goes back to a send. -/
theorem sent_of_mem (h : Traced log outs s) {o : Nat × Int × Message} (ho : o ∈ outs) :
    ∃ x, (sendings log)[o.1]? = some x := by
  obtain ⟨i, hi⟩ := List.mem_iff_getElem?.mp ho
  obtain ⟨x, hx⟩ := h.handed hi
  exact ⟨x, hx.sent⟩

/-- A step that hands nothing out lengthens the log and not the trace. -/
theorem quiet (h : Traced log outs s) {step : Step} (hreturns : step.returns = [])
    (hheld : ∀ {id q}, s'.held? id = some q → Follows (log ++ [step]) outs id q) :
    Traced (log ++ [step]) outs s' := by
  refine ⟨?_, ?_, hheld⟩
  · rw [returned_append, returned_singleton, hreturns, List.append_nil, h.told]
  · intro i n now m hi
    obtain ⟨x, hx⟩ := h.handed hi
    exact ⟨x, hx.append _⟩

/-- A send gives its message the next number, under which nothing was handed out. -/
theorem follows_send (h : Traced log outs s) (hq : s.held? id = some q) (now : Int)
    (message : Message) :
    Follows (log ++ [⟨.send now id message, .ok (.sent (some q.queue))⟩]) outs id
      { q with messages := q.messages ++ [hold now message q] } := by
  obtain ⟨marked, hnodup, hmessages, hmarked⟩ := h.held hq
  have hlt : ∀ p ∈ marked, p.1 < (sendings log).length := fun p hp =>
    (List.getElem?_eq_some_iff.mp (hmarked p hp).1).1
  have hunseen : trail (sendings log).length outs = [] := by
    refine trail_eq_nil fun hmem => ?_
    obtain ⟨o, ho, heq⟩ := List.mem_map.mp hmem
    obtain ⟨x, hx⟩ := h.sent_of_mem ho
    rw [heq, List.getElem?_eq_none (Nat.le_refl _)] at hx
    cases hx
  refine ⟨marked ++ [((sendings log).length, ⟨id, q.queue, now, message⟩)], ?_, ?_, ?_⟩
  · rw [List.map_append, List.nodup_append]
    refine ⟨hnodup, by simp, fun n hn n' hn' => ?_⟩
    obtain ⟨p, hp, rfl⟩ := List.mem_map.mp hn
    rw [List.mem_singleton.mp hn']
    exact Nat.ne_of_lt (hlt p hp)
  · rw [List.map_append, List.map_singleton, hunseen, hmessages]
    rfl
  · intro p hp
    rcases List.mem_append.mp hp with hp | hp
    · obtain ⟨hsent, hrest⟩ := hmarked p hp
      exact ⟨sendings_append_getElem? hsent _, hrest⟩
    · obtain rfl := List.mem_singleton.mp hp
      refine ⟨?_, rfl, rfl, hunseen ▸ .unseen⟩
      rw [sendings_append, List.getElem?_append_right (Nat.le_refl _), Nat.sub_self]
      rfl

/-- **A receive.** What it hands out is put under the numbers of the messages that it was given. -/
theorem exists_outs (h : Traced log outs s) (run : Run log s) (hq : s.held? id = some q) {now : Int}
    {handles : Nat → String} {max : Nat} {given : List Message} {kept : List HeldMessage}
    (delivery : Delivery q.queue.attributes.visibilityTimeout now
      (q.messages.filter fun x => now < x.expiresAt) given kept)
    (onward : Run (log ++ [⟨.receive now handles id max, .ok (.given given)⟩])
      (s.setHeld id { q with messages := kept })) :
    ∃ new : Outs, new.map (·.2) = given.map (now, ·) ∧
      Follows log (outs ++ new) id { q with messages := kept } ∧
      ∀ {i n now' m}, new[i]? = some (n, now', m) →
        ∃ x, x.id = id ∧ Handed (log ++ [⟨.receive now handles id max, .ok (.given given)⟩])
          (outs ++ new.take i) n now' m x := by
  obtain ⟨new, hgiven, hnew, hown, hdue⟩ := (h.held hq).exists_outs delivery
  refine ⟨new, hgiven, hown, ?_⟩
  intro i n now' m hi
  obtain ⟨x, hx⟩ := hdue _ (List.mem_of_getElem? hi)
  have htold : (now', m) ∈ given.map (now, ·) :=
    hgiven ▸ List.mem_map_of_mem (List.mem_of_getElem? hi)
  obtain ⟨m', hm, heq⟩ := List.mem_map.mp htold
  obtain ⟨rfl, rfl⟩ := Prod.mk.inj heq
  obtain ⟨y, -, handle, -, rfl, hkept⟩ := delivery.mem_given hm
  have htrail : trail n (outs ++ new.take i) = trail n outs := by
    rw [trail_append, trail_take_eq_nil hnew hi, List.append_nil]
  have hsource : Source (log ++ [⟨.receive now handles id max, .ok (.given given)⟩]) log s
      (s.setHeld id { q with messages := kept }) n now (received y.message now handle) x := by
    obtain rfl := hx.id
    exact
      { reached := run
        step := ⟨handles, max, given, List.prefix_rfl, onward, hm⟩
        sent := hx.sent
        record := by rw [lookup?, hq, hx.queue]; rfl
        kept := ⟨_, _, held?_setHeld_self .., hkept, rfl⟩ }
  exact ⟨x, hx.id, ⟨log, _, _, hsource⟩, htrail ▸ hx.timely, htrail ▸ hx.visible, hx.live,
    htrail ▸ hx.received⟩

/-- A step that hands nothing out and changes one queue. -/
theorem quiet_setHeld (h : Traced log outs s) {step : Step} (hreturns : step.returns = [])
    (hown : Follows (log ++ [step]) outs id q) : Traced (log ++ [step]) outs (s.setHeld id q) := by
  refine h.quiet hreturns fun {id' q'} hq' => ?_
  by_cases hid : id' = id
  · subst hid
    rw [held?_setHeld_self] at hq'
    cases hq'
    exact hown
  · rw [sameBut_setHeld s id q id' hid] at hq'
    exact (h.held hq').append _

/-- The trace goes on behind a receive with what the receive hands out. -/
theorem receive (h : Traced log outs s) (run : Run log s) (hq : s.held? id = some q) {now : Int}
    {handles : Nat → String} {max : Nat} {given : List Message} {kept : List HeldMessage}
    (delivery : Delivery q.queue.attributes.visibilityTimeout now
      (q.messages.filter fun x => now < x.expiresAt) given kept)
    (onward : Run (log ++ [⟨.receive now handles id max, .ok (.given given)⟩])
      (s.setHeld id { q with messages := kept })) :
    ∃ new, Traced (log ++ [⟨.receive now handles id max, .ok (.given given)⟩]) (outs ++ new)
      (s.setHeld id { q with messages := kept }) := by
  obtain ⟨new, hgiven, hown, hhanded⟩ := h.exists_outs run hq delivery onward
  refine ⟨new, ?_, ?_, ?_⟩
  · rw [List.map_append, h.told, hgiven, returned_append, returned_singleton]
    rfl
  · intro i n now' m hi
    -- a hand-out of the earlier trace, or one of this receive
    by_cases hlt : i < outs.length
    · rw [List.getElem?_append_left hlt] at hi
      obtain ⟨x, hx⟩ := h.handed hi
      rw [List.take_append_of_le_length (Nat.le_of_lt hlt)]
      exact ⟨x, hx.append _⟩
    · have hle : outs.length ≤ i := Nat.le_of_not_lt hlt
      rw [List.getElem?_append_right hle] at hi
      obtain ⟨x, -, hx⟩ := hhanded hi
      rw [List.take_append, List.take_of_length_le hle]
      exact ⟨x, hx⟩
  · intro id' q' hq'
    by_cases hid : id' = id
    · subst hid
      rw [held?_setHeld_self] at hq'
      cases hq'
      exact hown.append _
    · -- the other queues were given none of the new hand-outs
      rw [sameBut_setHeld _ _ _ id' hid] at hq'
      refine ((h.held hq').append _).other fun o ho => ?_
      obtain ⟨i, hi⟩ := List.mem_iff_getElem?.mp ho
      obtain ⟨x, hown, hx⟩ := hhanded hi
      exact ⟨x, hx.sent, fun heq => hid (heq.symm.trans hown)⟩

/-- A refused command leaves the trace as it is. -/
theorem refused (h : Traced log outs s) (c : Command) (e : StoreError) :
    Traced (log ++ [⟨c, .error e⟩]) outs s := by
  have hreturns : Step.returns ⟨c, .error e⟩ = [] := by cases c <;> rfl
  exact h.quiet hreturns fun hq => (h.held hq).append _

/-- A granted command goes on with the trace. -/
theorem granted (h : Traced log outs s) (run : Run log s) {c : Command} {note : Note}
    (onward : Run (log ++ [⟨c, .ok note⟩]) s') (hg : Granted s c note s') :
    ∃ new, Traced (log ++ [⟨c, .ok note⟩]) (outs ++ new) s' := by
  have hquiet : Traced (log ++ [⟨c, .ok note⟩]) outs s' →
      ∃ new, Traced (log ++ [⟨c, .ok note⟩]) (outs ++ new) s' :=
    fun ht => ⟨[], (List.append_nil outs).symm ▸ ht⟩
  cases hg with
  | lookup => exact hquiet (h.quiet rfl fun hq => (h.held hq).append _)
  | list => exact hquiet (h.quiet rfl fun hq => (h.held hq).append _)
  | create => exact hquiet (h.quiet_setHeld rfl (.of_nil rfl))
  | @delete id _ held =>
      refine hquiet (h.quiet rfl fun {id' q'} hq' => ?_)
      rw [held?_erase] at hq'
      split at hq'
      · cases hq'
      · exact (h.held hq').append _
  | send held => exact hquiet (h.quiet_setHeld rfl (h.follows_send held _ _))
  | receive held delivery => exact h.receive run held delivery onward
  | @deleteMessage _ _ q before after x held split =>
      have hsub : (before ++ after).Sublist q.messages := by
        rw [split]
        exact (List.sublist_cons_self x after).append_left before
      exact hquiet (h.quiet_setHeld rfl (((h.held held).sublist hsub).append _))
  | purge => exact hquiet (h.quiet_setHeld rfl (.of_nil rfl))

end Traced

/-- Every run has a trace. -/
theorem Run.exists_traced {log : List Step} {s : Store} (run : Run log s) :
    ∃ outs, Traced log outs s := by
  refine Path.invariant (P := fun log s => ∃ outs, Traced log outs s) ?_ ?_ ?_ run
  · refine ⟨[], rfl, fun hi => ?_, fun hq => ?_⟩
    · cases hi
    · cases hq
  · rintro log s c e past ⟨outs, h⟩
    exact ⟨outs, h.refused c e⟩
  · rintro log s c note s' onward past ⟨outs, h⟩ hg
    obtain ⟨new, hnew⟩ := h.granted past onward hg
    exact ⟨outs ++ new, hnew⟩

end QueueService.Store
