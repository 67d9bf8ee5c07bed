import QueueService.Proofs.RedriveGraph

/-!
# Requests that are overtaken

A request to create a queue that loses its race: its look-up shows no queue of that name, although there may
be one by the time that it creates its own. The creation is then refused, and the second look-up shows the
queue that was there first. The request comes to what it would have come to if the first look-up had shown
it.

The plan of faults has to let the look-ups pass that the check of the attributes makes for the targets of
redrive policies, and `Looks` counts them.

* `Looks` — how many look-ups an operation makes that answers, as told by a plan that misses behind them.
* `createQueue_overtaken` — the request that is overtaken, and the same request without faults.
-/

namespace QueueService

open Operation

/-! ## One look-up that misses -/

/-- The plan under which one look-up misses, behind a number of look-ups that do not. -/
def FaultPlan.missAfter (n : Nat) : FaultPlan :=
  FaultPlan.none.append .lookupQueue (List.replicate n .none ++ [some .miss])

/-- A store whose look-ups miss once, behind a number of look-ups that do not. -/
def Backend.missingAfter (s : Store) (n : Nat) : Backend := { store := s, faults := .missAfter n }

namespace FaultPlan

theorem next?_missAfter_succ (n : Nat) : (missAfter (n + 1)).next? .lookupQueue = Option.none := by
  simp [next?, missAfter, append, none, List.replicate_succ]

/-- A look-up that does not miss leaves one less before the one that does. -/
theorem advance_missAfter_succ (n : Nat) : (missAfter (n + 1)).advance .lookupQueue = missAfter n := by
  funext c
  by_cases hc : c = .lookupQueue
  · simp [advance, missAfter, append, none, hc, List.replicate_succ]
  · simp [advance, missAfter, append, none, hc]

/-- The look-up that misses uses up the plan. -/
theorem advance_missAfter_zero : (missAfter 0).advance .lookupQueue = none := by
  funext c
  by_cases hc : c = .lookupQueue
  · simp [advance, missAfter, append, none, hc]
  · simp [advance, missAfter, append, none, hc]

end FaultPlan

namespace Backend

variable (id : QueueId) (s : Store)

/-- A look-up before the one that misses is answered by the store. -/
theorem lookupQueue_before (n : Nat) :
    (lookupQueue id).runOn (missingAfter s (n + 1)) = (.ok (s.lookup? id), missingAfter s n) := by
  have hbehind : (missingAfter s (n + 1)).advance .lookupQueue = missingAfter s n := by
    rw [advance, missingAfter, FaultPlan.advance_missAfter_succ]
    rfl
  rw [lookupQueue, call_of_none (FaultPlan.next?_missAfter_succ n), reach, hbehind]
  rfl

theorem lookupQueue_missing :
    (lookupQueue id).runOn (missingAfter s 0) = (.ok none, reliable s) := by
  have hbehind : (missingAfter s 0).advance .lookupQueue = reliable s := by
    rw [advance, missingAfter, FaultPlan.advance_missAfter_zero]
    rfl
  have hnext : (missingAfter s 0).faults.next? .lookupQueue = some .miss := rfl
  rw [lookupQueue, call_of_miss hnext, hbehind]

end Backend

/-! ## Counting look-ups -/

/-- **A number of look-ups.** An operation that answers on a store without faults has made that many: it
    answers alike where a look-up misses behind them, and that look-up is the next. An operation that fails,
    fails alike, and leaves the store alone. -/
def Looks (s : Store) (n : Nat) {α : Type} (op : Operation α) : Prop :=
  ∀ m, (∃ a, op.runOn (.reliable s) = (.ok a, .reliable s) ∧
      op.runOn (.missingAfter s (n + m)) = (.ok a, .missingAfter s m)) ∨
    ∃ e b', op.runOn (.reliable s) = (.error e, .reliable s) ∧
      op.runOn (.missingAfter s (n + m)) = (.error e, b') ∧ b'.store = s

namespace Looks

variable {α β : Type} {s : Store} {n k : Nat}

theorem ofExcept (r : Except ServiceError α) : Looks s 0 (Operation.ofExcept r) := by
  intro m
  rw [Nat.zero_add]
  cases r with
  | ok a => exact .inl ⟨a, rfl, rfl⟩
  | error e => exact .inr ⟨e, _, rfl, rfl, rfl⟩

theorem pure (a : α) : Looks s 0 (Pure.pure a : Operation α) := ofExcept (.ok a)

theorem lookupQueue (id : QueueId) : Looks s 1 (ofAction (Backend.lookupQueue id)) := by
  intro m
  refine .inl ⟨s.lookup? id, ?_, ?_⟩
  · rw [runOn_ofAction, Backend.lookupQueue_reliable]
    rfl
  · rw [Nat.add_comm, runOn_ofAction, Backend.lookupQueue_before]
    rfl

/-- One step after another makes the look-ups of both. -/
theorem bind {op : Operation α} {f : α → Operation β} (hop : Looks s n op)
    (hf : ∀ a, op.runOn (.reliable s) = (.ok a, .reliable s) → Looks s k (f a)) :
    Looks s (n + k) (op >>= f) := by
  intro m
  rw [Nat.add_assoc]
  rcases hop (k + m) with ⟨a, hrun, hmissing⟩ | ⟨e, b', hrun, hmissing, hstore⟩
  · rw [runOn_bind_of_ok hrun, runOn_bind_of_ok hmissing]
    exact hf a hrun m
  · rw [runOn_bind_of_error hrun, runOn_bind_of_error hmissing]
    exact .inr ⟨e, b', rfl, rfl, hstore⟩

/-- A verdict that needs no call comes before the look-ups. -/
theorem ofExcept_bind {r : Except ServiceError α} {f : α → Operation β}
    (hf : ∀ a, r = .ok a → Looks s n (f a)) : Looks s n (Operation.ofExcept r >>= f) := by
  have h := (ofExcept r).bind (k := n) fun a ha => hf a (ofExcept_ok ha).1
  rwa [Nat.zero_add] at h

end Looks

namespace Service

variable {limits : Limits} {caller : Caller} {s : Store}

/-- Whether a supplied attribute is a redrive policy, whose target is looked up. -/
def isRedriveDocument (supplied : String × String) : Bool :=
  QueueAttribute.ofText? supplied.1 == some .redrivePolicy && !supplied.2.isEmpty

/-- The number of redrive policies among the attributes supplied. -/
def redriveDocuments (supplied : List (String × String)) : Nat := supplied.countP isRedriveDocument

theorem looks_redrivePolicy (document : String) : Looks s 1 (redrivePolicy limits caller document) := by
  refine Looks.ofExcept_bind fun policy _ => ?_
  refine (Looks.lookupQueue policy.target).bind (k := 0) fun found _ => ?_
  cases found with
  | some _ => exact Looks.pure _
  | none => exact Looks.ofExcept (.error _)

theorem looks_setAttribute (attributes : QueueAttributes) (name value : String) :
    Looks s (if isRedriveDocument (name, value) then 1 else 0)
      (setAttribute limits caller attributes name value) := by
  refine Looks.ofExcept_bind fun a ha => ?_
  have hdocument : isRedriveDocument (name, value) = (decide (a = .redrivePolicy) && !value.isEmpty) := by
    rw [isRedriveDocument, attributeNamed_ok ha]
    rfl
  rw [hdocument]
  by_cases hredrive : (decide (a = .redrivePolicy) && !value.isEmpty) = true
  · rw [if_pos hredrive]
    simp only [Bool.and_eq_true, decide_eq_true_eq] at hredrive
    obtain ⟨rfl, hvalue⟩ := hredrive
    simp only [numericRange?, reduceCtorEq, decide_false, Bool.false_and, Bool.false_eq_true, if_false,
      decide_true, Bool.true_and, if_pos hvalue]
    exact (looks_redrivePolicy value).bind (k := 0) fun _ _ => Looks.pure _
  · rw [if_neg hredrive]
    split
    · exact Looks.ofExcept_bind fun _ _ => Looks.pure _
    · split
      · exact Looks.ofExcept_bind fun _ _ => Looks.pure _
      · exact Looks.pure _

/-- The check of the attributes looks up the target of each redrive policy. -/
theorem looks_setAttributes (attributes : QueueAttributes) (supplied : List (String × String)) :
    Looks s (redriveDocuments supplied) (setAttributes limits caller attributes supplied) := by
  induction supplied generalizing attributes with
  | nil => exact Looks.pure _
  | cons head rest ih =>
      obtain ⟨name, value⟩ := head
      rw [redriveDocuments, List.countP_cons, Nat.add_comm]
      exact Looks.bind (looks_setAttribute attributes name value) fun attributes _ => ih attributes

theorem looks_queueAttributes (limits : Limits) (caller : Caller) (s : Store)
    (supplied : List (String × String)) :
    Looks s (redriveDocuments supplied) (queueAttributes limits caller supplied) :=
  looks_setAttributes .standard supplied

/-! ## The race -/

/-- A race that is overtaken comes to what it comes to without faults: the creation is refused exactly where
    there is a queue, and then the second look-up shows it. -/
theorem existingOrCreate_overtaken (now : Int) (id : QueueId) (attributes : QueueAttributes) (s : Store) :
    (existingOrCreate now id attributes).runOn (.missingAfter s 0) =
      (existingOrCreate now id attributes).runOn (.reliable s) := by
  rw [existingOrCreate_reliable]
  unfold existingOrCreate
  rw [call_bind_of_ok (Backend.lookupQueue_missing id s)]
  cases hlook : s.lookup? id with
  | some queue =>
      simp only [attempt_bind (Backend.createQueue_of_present now attributes hlook)]
      rw [runOn_ofAction, Backend.lookupQueue_reliable, hlook]
      rfl
  | none =>
      simp only [attempt_bind (Backend.createQueue_of_absent now attributes hlook)]
      rfl

/-! ## Creation -/

section Creation

variable {desk : Desk} {name? : Option String} {supplied : List (String × String)} {name : String}
  {attributes : QueueAttributes} {b₁ : Backend}

/-- A request that passes its checks passes them in the race as well. Behind them the next look-up is the one
    that misses. -/
theorem checked_missingAfter_iff :
    Checked desk caller name? supplied (.missingAfter s (redriveDocuments supplied)) name attributes b₁ ↔
      Checked desk caller name? supplied (.reliable s) name attributes (.reliable s) ∧
        b₁ = .missingAfter s 0 := by
  rcases looks_queueAttributes desk.limits caller s supplied 0 with
    ⟨checked, hrun, hmissing⟩ | ⟨e, b', hrun, hmissing, -⟩
  · constructor
    · rintro ⟨hname, hattributes⟩
      cases hmissing.symm.trans hattributes
      exact ⟨⟨hname, hrun⟩, rfl⟩
    · rintro ⟨⟨hname, hattributes⟩, rfl⟩
      cases hrun.symm.trans hattributes
      exact ⟨hname, hmissing⟩
  · constructor
    · rintro ⟨hname, hattributes⟩
      cases hmissing.symm.trans hattributes
    · rintro ⟨⟨hname, hattributes⟩, rfl⟩
      cases hrun.symm.trans hattributes

/-- The request comes to the same in the race, and leaves the same store. -/
theorem createQueue_missingAfter (desk : Desk) (caller : Caller) (occasion : Occasion)
    (name? : Option String) (supplied : List (String × String)) (s : Store) :
    ∃ b', (createQueue desk caller occasion name? supplied).runOn
        (.missingAfter s (redriveDocuments supplied)) =
          (((createQueue desk caller occasion name? supplied).runOn (.reliable s)).1, b') ∧
      b'.store = ((createQueue desk caller occasion name? supplied).runOn (.reliable s)).2.store := by
  unfold createQueue
  cases hname : queueName desk.limits name? with
  | error e =>
      rw [runOn_bind_of_error (runOn_ofExcept _ _), runOn_bind_of_error (runOn_ofExcept _ _)]
      exact ⟨_, rfl, rfl⟩
  | ok name =>
      rw [runOn_bind_of_ok (runOn_ofExcept _ _), runOn_bind_of_ok (runOn_ofExcept _ _)]
      rcases looks_queueAttributes desk.limits caller s supplied 0 with
        ⟨attributes, hrun, hmissing⟩ | ⟨e, b', hrun, hmissing, hstore⟩
      · -- from here on the two runs differ in the race only
        rw [runOn_bind_of_ok hrun, ← Nat.add_zero (redriveDocuments supplied),
          runOn_bind_of_ok hmissing, runOn_bind, existingOrCreate_overtaken, ← runOn_bind]
        exact ⟨_, rfl, rfl⟩
      · rw [runOn_bind_of_error hrun, ← Nat.add_zero (redriveDocuments supplied),
          runOn_bind_of_error hmissing]
        exact ⟨b', rfl, hstore⟩

end Creation

/-- **A request that is overtaken.** Its look-up of its own queue is the one that misses, and it comes to the
    same as without faults and leaves the same store: it is answered if there is no such queue or a matching
    one, and fails for the conflict otherwise. -/
theorem createQueue_overtaken (desk : Desk) (caller : Caller) (occasion : Occasion)
    (name? : Option String) (supplied : List (String × String)) (s : Store) :
    let overtaken := (createQueue desk caller occasion name? supplied).runOn
      (.missingAfter s (redriveDocuments supplied))
    let undisturbed := (createQueue desk caller occasion name? supplied).runOn (.reliable s)
    overtaken.1 = undisturbed.1 ∧ overtaken.2.store = undisturbed.2.store ∧
      ∀ name attributes b₁,
        Checked desk caller name? supplied (.missingAfter s (redriveDocuments supplied)) name attributes
            b₁ →
          (Backend.lookupQueue ⟨caller.account, name⟩).runOn b₁ = (.ok none, .reliable s) ∧
            ((s.lookup? ⟨caller.account, name⟩ = none ∨ s.Matches ⟨caller.account, name⟩ attributes) ∧
                overtaken.1 = .ok (desk.addresses.url ⟨caller.account, name⟩) ∨
              (∃ queue, s.lookup? ⟨caller.account, name⟩ = some queue ∧
                  queue.attributes.comparable ≠ attributes.comparable) ∧
                ∃ e, overtaken.1 = .error e ∧ e.code = .queueAlreadyExists) := by
  obtain ⟨b', hrun, hstore⟩ := createQueue_missingAfter desk caller occasion name? supplied s
  intro overtaken undisturbed
  have hanswer : overtaken.1 = undisturbed.1 := by rw [show overtaken = _ from hrun]
  have hleft : overtaken.2.store = undisturbed.2.store := by rw [show overtaken = _ from hrun, hstore]
  refine ⟨hanswer, hleft, ?_⟩
  intro name attributes b₁ hchecked
  obtain ⟨hreliable, rfl⟩ := checked_missingAfter_iff.mp hchecked
  refine ⟨Backend.lookupQueue_missing _ s, ?_⟩
  rw [hanswer]
  have hundisturbed := createQueue_of_checked hreliable occasion
  cases hlook : s.lookup? ⟨caller.account, name⟩ with
  | none =>
      rw [hlook] at hundisturbed
      exact .inl ⟨.inl rfl, congrArg Prod.fst hundisturbed⟩
  | some queue =>
      rw [hlook] at hundisturbed
      by_cases heq : queue.attributes.comparable = attributes.comparable
      · simp only [if_pos heq] at hundisturbed
        exact .inl ⟨.inr ⟨queue, hlook, heq⟩, congrArg Prod.fst hundisturbed⟩
      · simp only [if_neg heq] at hundisturbed
        exact .inr ⟨⟨queue, rfl, heq⟩, _, congrArg Prod.fst hundisturbed, rfl⟩

/-- A store with a queue that has a redrive policy, and with its target. -/
def raced : Store :=
  (Sample.store "dlq" []).setHeld (Sample.id "q")
    { queue := Queue.new (Sample.id "q") (QueueAttributes.standard.insert .redrivePolicy
        (redrivingPolicy.toDocument Sample.caller.region)) 0
      messages := [] }

/-- The queue is asked for again, and then with other attributes, while its look-up misses. -/
theorem createQueue_overtaken_redriving :
    redriveDocuments [("RedrivePolicy", redrivingDocument)] = 1 ∧
      ((createQueue Sample.desk Sample.caller Sample.occasion (some "q")
          [("RedrivePolicy", redrivingDocument)]).runOn (.missingAfter raced 1)).1 =
        .ok (Sample.desk.addresses.url (Sample.id "q")) ∧
      ∃ e, ((createQueue Sample.desk Sample.caller Sample.occasion (some "q") []).runOn
          (.missingAfter raced 0)).1 = .error e ∧ e.code = .queueAlreadyExists := by
  have hcount : redriveDocuments [("RedrivePolicy", redrivingDocument)] = 1 := by decide
  have hagain : Checked Sample.desk Sample.caller (some "q") [("RedrivePolicy", redrivingDocument)]
      (.reliable raced) "q" _ (.reliable raced) :=
    ⟨rfl, queueAttributes_of_standing ⟨parse_redrivingDocument, rfl⟩⟩
  have hother : Checked Sample.desk Sample.caller (some "q") [] (.reliable raced) "q" .standard
      (.reliable raced) := ⟨rfl, rfl⟩
  have hlook : raced.lookup? (Sample.id "q") = some _ := rfl
  obtain ⟨-, -, hsame⟩ := createQueue_overtaken Sample.desk Sample.caller Sample.occasion (some "q")
    [("RedrivePolicy", redrivingDocument)] raced
  obtain ⟨-, -, hdiffer⟩ := createQueue_overtaken Sample.desk Sample.caller Sample.occasion (some "q") []
    raced
  refine ⟨hcount, ?_, ?_⟩
  · rcases (hsame _ _ _ (checked_missingAfter_iff.mpr ⟨hagain, rfl⟩)).2 with ⟨-, hurl⟩ | ⟨⟨queue, hq, hne⟩, -⟩
    · rwa [hcount] at hurl
    · cases hlook.symm.trans hq
      exact absurd rfl hne
  · rcases (hdiffer _ _ _ (checked_missingAfter_iff.mpr ⟨hother, rfl⟩)).2 with
      ⟨hnone | ⟨queue, hq, heq⟩, -⟩ | ⟨-, hconflict⟩
    · cases hlook.symm.trans hnone
    · cases hlook.symm.trans hq
      exact absurd (congrArg (fun d => d.contains .redrivePolicy) heq) (by decide)
    · exact hconflict

end Service

end QueueService
