import QueueService.Proofs.Check
import QueueService.Proofs.Creation

/-!
# The attributes of a request

What the list of attributes that a request supplies comes to. Each supplied attribute is set, or passed
over, on its own (`Assigned`); over the whole list the last value of an attribute counts, a number is the
text that passed its check (`setAttributes_number`), and a redrive policy is the canonical document of
one whose target the store holds (`setAttributes_redrive`).
-/

namespace QueueService

open Operation

/-- The value that is supplied last under the name of an attribute. -/
def lastValue? (supplied : List (String × String)) (a : QueueAttribute) : Option String :=
  supplied.reverse.lookup a.toText

theorem lastValue?_cons (name value : String) (rest : List (String × String)) (a : QueueAttribute) :
    lastValue? ((name, value) :: rest) a =
      (lastValue? rest a).or (if name = a.toText then some value else none) := by
  unfold lastValue?
  rw [List.reverse_cons, List.lookup_append, List.lookup_cons, List.lookup_nil]
  by_cases heq : name = a.toText
  · rw [if_pos heq, heq, beq_self_eq_true]
  · rw [if_neg heq, beq_eq_false_iff_ne.mpr (Ne.symm heq)]

namespace Service

/-- **A redrive policy that stands.** It reads as a policy of the caller's, whose target there is. -/
structure Standing (limits : Limits) (caller : Caller) (s : Store) (document : String)
    (policy : RedrivePolicy) : Prop where
  reads : RedrivePolicy.parse limits caller.account caller.region document = .ok policy
  target : (s.lookup? policy.target).isSome

/-- **What setting one attribute comes to.** -/
inductive Assigned (limits : Limits) (caller : Caller) (s : Store) (a : QueueAttribute) (value : String)
    (attributes : QueueAttributes) : QueueAttributes → Prop
  /-- A number is kept as it was written. -/
  | number {least greatest : Nat} (range : numericRange? limits a = some (least, greatest))
      (check : checkNumber a.toText value least greatest = .ok ()) :
      Assigned limits caller s a value attributes (attributes.insert a value)
  /-- So is a policy. -/
  | policy (named : a = .policy) (check : Policy.check value = .ok ()) :
      Assigned limits caller s a value attributes (attributes.insert a value)
  /-- A redrive policy is brought into its canonical form. -/
  | redrive {policy : RedrivePolicy} (named : a = .redrivePolicy)
      (standing : Standing limits caller s value policy) :
      Assigned limits caller s a value attributes
        (attributes.insert a (policy.toDocument caller.region))
  /-- What is not a number may be passed over. -/
  | passed (range : numericRange? limits a = none) :
      Assigned limits caller s a value attributes attributes

section

variable {limits : Limits} {caller : Caller} {b b' : Backend} {attributes result : QueueAttributes}

theorem attributeNamed_ok {name : String} {a : QueueAttribute} (h : attributeNamed name = .ok a) :
    QueueAttribute.ofText? name = some a := by
  unfold attributeNamed at h
  split at h
  · next a' hname =>
    cases h
    exact hname
  · cases h

theorem redrivePolicy_ok {document : String} {policy : RedrivePolicy}
    (h : (redrivePolicy limits caller document).runOn b = (.ok policy, b')) :
    Standing limits caller b.store document policy := by
  obtain ⟨policy', _, hrun, h⟩ := bind_ok h
  obtain ⟨hparse, rfl⟩ := ofExcept_ok hrun
  obtain ⟨found?, b₁, hlook, h⟩ := bind_ok h
  cases found? with
  | none => cases h
  | some queue =>
      cases h
      have hfound := Backend.lookupQueue_some (ofAction_ok hlook)
      exact { reads := exceptMapError_ok hparse, target := by rw [hfound]; rfl }

/-- On a store that answers every call, a policy that stands is the answer. -/
theorem redrivePolicy_of_standing {s : Store} {document : String} {policy : RedrivePolicy}
    (h : Standing limits caller s document policy) :
    (redrivePolicy limits caller document).runOn (.reliable s) = (.ok policy, .reliable s) := by
  have hread : (RedrivePolicy.parse limits caller.account caller.region document).mapError
      ServiceError.redrive = .ok policy := by
    rw [h.reads]
    rfl
  obtain ⟨queue, hqueue⟩ := Option.isSome_iff_exists.mp h.target
  have hlook := Backend.lookupQueue_reliable policy.target s
  rw [hqueue] at hlook
  unfold redrivePolicy
  rw [hread, runOn_bind_of_ok (runOn_ofExcept _ _), call_bind_of_ok hlook]
  rfl

theorem setAttribute_ok {name value : String}
    (h : (setAttribute limits caller attributes name value).runOn b = (.ok result, b')) :
    ∃ a, QueueAttribute.ofText? name = some a ∧
      Assigned limits caller b.store a value attributes result := by
  obtain ⟨a, _, hrun, h⟩ := bind_ok h
  obtain ⟨hnamed, rfl⟩ := ofExcept_ok hrun
  have hname := attributeNamed_ok hnamed
  refine ⟨a, hname, ?_⟩
  split at h
  · next least greatest hrange =>
    obtain ⟨_, _, hchecked, h⟩ := bind_ok h
    obtain ⟨hcheck, rfl⟩ := ofExcept_ok hchecked
    cases h
    exact .number hrange (QueueAttribute.toText_of_ofText? hname ▸ hcheck)
  · next hrange =>
    split at h
    · next hpolicy =>
      simp only [Bool.and_eq_true, decide_eq_true_eq] at hpolicy
      obtain rfl := hpolicy.1
      obtain ⟨_, _, hchecked, h⟩ := bind_ok h
      obtain ⟨hcheck, rfl⟩ := ofExcept_ok hchecked
      cases h
      exact .policy rfl (exceptMapError_ok hcheck)
    · split at h
      · next hredrive =>
        simp only [Bool.and_eq_true, decide_eq_true_eq] at hredrive
        obtain rfl := hredrive.1
        obtain ⟨policy, _, hread, h⟩ := bind_ok h
        cases h
        exact .redrive rfl (redrivePolicy_ok hread)
      · cases h
        exact .passed hrange

section Assigned

variable {s : Store} {a a' : QueueAttribute} {value : String}

theorem Assigned.find?_of_ne (h : Assigned limits caller s a value attributes result) (hne : a' ≠ a) :
    result.find? a' = attributes.find? a' := by
  cases h with
  | number | policy | redrive => exact Dict.find?_insert_of_ne _ hne _
  | passed => rfl

/-- An attribute that has a range is never passed over. -/
theorem Assigned.of_range (h : Assigned limits caller s a value attributes result)
    {least greatest : Nat} (hrange : numericRange? limits a = some (least, greatest)) :
    result.find? a = some value ∧ checkNumber a.toText value least greatest = .ok () := by
  cases h with
  | number range check =>
      cases range.symm.trans hrange
      exact ⟨Dict.find?_insert_self .., check⟩
  | policy named | redrive named =>
      subst named
      cases hrange
  | passed range => cases range.symm.trans hrange

/-- Behind a redrive policy that is set there is one that stands. -/
theorem Assigned.of_redrivePolicy (h : Assigned limits caller s .redrivePolicy value attributes result)
    {document : String} (hfind : result.find? .redrivePolicy = some document) :
    attributes.find? .redrivePolicy = some document ∨
      ∃ policy, Standing limits caller s value policy ∧
        document = policy.toDocument caller.region := by
  cases h with
  | number range => cases range
  | policy named => cases named
  | @redrive policy _ standing =>
      rw [Dict.find?_insert_self] at hfind
      exact Or.inr ⟨policy, standing, (Option.some.inj hfind).symm⟩
  | passed => exact Or.inl hfind

end Assigned

/-! ## Setting all attributes -/

section All

variable {supplied : List (String × String)}

/-- **The last value counts.** It is kept as it was written, and it has passed its check. -/
theorem setAttributes_number
    (h : (setAttributes limits caller attributes supplied).runOn b = (.ok result, b'))
    {a : QueueAttribute} {least greatest : Nat}
    (hrange : numericRange? limits a = some (least, greatest)) :
    result.find? a = (lastValue? supplied a).or (attributes.find? a) ∧
      ∀ value, lastValue? supplied a = some value →
        checkNumber a.toText value least greatest = .ok () := by
  induction supplied generalizing attributes b with
  | nil =>
      cases h
      exact ⟨rfl, nofun⟩
  | cons first rest ih =>
      obtain ⟨name, value⟩ := first
      obtain ⟨changed, b₁, hset, h⟩ := bind_ok h
      obtain ⟨hfind, hlast⟩ := ih h
      obtain ⟨a', hname, hassigned⟩ := setAttribute_ok hset
      rw [lastValue?_cons, hfind]
      cases hrest : lastValue? rest a with
      | some later =>
          -- a later value hides this one
          refine ⟨rfl, fun value' hvalue => ?_⟩
          cases hvalue
          exact hlast later hrest
      | none =>
          by_cases heq : a = a'
          · subst heq
            obtain ⟨hvalue, hcheck⟩ := hassigned.of_range hrange
            rw [if_pos (QueueAttribute.toText_of_ofText? hname).symm, hvalue]
            refine ⟨rfl, fun value' hvalue' => ?_⟩
            cases hvalue'
            exact hcheck
          · have hother : name ≠ a.toText := by
              rintro rfl
              exact heq (Option.some.inj ((QueueAttribute.ofText?_toText a).symm.trans hname))
            rw [if_neg hother, hassigned.find?_of_ne heq]
            exact ⟨rfl, nofun⟩

/-- A redrive policy was there before, or it stands. -/
theorem setAttributes_redrive
    (h : (setAttributes limits caller attributes supplied).runOn b = (.ok result, b'))
    {document : String} (hfind : result.find? .redrivePolicy = some document) :
    attributes.find? .redrivePolicy = some document ∨
      ∃ value policy, Standing limits caller b.store value policy ∧
        document = policy.toDocument caller.region := by
  induction supplied generalizing attributes b with
  | nil =>
      cases h
      exact Or.inl hfind
  | cons first rest ih =>
      obtain ⟨name, value⟩ := first
      obtain ⟨changed, b₁, hset, h⟩ := bind_ok h
      have hstore : b₁.store = b.store := (reads_setAttribute _ _ _ _ _ hset).1
      rcases ih h with hbefore | ⟨value', policy, hstanding, hdocument⟩
      · obtain ⟨a, -, hassigned⟩ := setAttribute_ok hset
        by_cases heq : QueueAttribute.redrivePolicy = a
        · subst heq
          rcases hassigned.of_redrivePolicy hbefore with hbefore | ⟨policy, hstanding, hdocument⟩
          · exact Or.inl hbefore
          · exact Or.inr ⟨value, policy, hstanding, hdocument⟩
        · rw [hassigned.find?_of_ne heq] at hbefore
          exact Or.inl hbefore
      · exact Or.inr ⟨value', policy, hstore ▸ hstanding, hdocument⟩

/-- A new queue has a redrive policy only if one was supplied, and then one that stands. -/
theorem queueAttributes_redrive
    (h : (queueAttributes limits caller supplied).runOn b = (.ok result, b')) {document : String}
    (hfind : result.find? .redrivePolicy = some document) :
    ∃ value policy, Standing limits caller b.store value policy ∧
      document = policy.toDocument caller.region :=
  (setAttributes_redrive h hfind).resolve_left nofun

/-- A redrive policy that stands is kept, when nothing else is supplied. -/
theorem queueAttributes_of_standing {s : Store} {document : String} {policy : RedrivePolicy}
    (h : Standing limits caller s document policy) :
    (queueAttributes limits caller [("RedrivePolicy", document)]).runOn (.reliable s) =
      (.ok (QueueAttributes.standard.insert .redrivePolicy (policy.toDocument caller.region)),
        .reliable s) := by
  have hnonempty : document.isEmpty = false := by
    cases hempty : document.isEmpty with
    | false => rfl
    | true =>
        have hreads := h.reads
        rw [String.isEmpty_iff.mp hempty] at hreads
        cases hreads
  have hset : (setAttribute limits caller .standard "RedrivePolicy" document).runOn (.reliable s) =
      (.ok (QueueAttributes.standard.insert .redrivePolicy (policy.toDocument caller.region)),
        .reliable s) := by
    have hnamed : attributeNamed "RedrivePolicy" = .ok .redrivePolicy := rfl
    unfold setAttribute
    rw [hnamed, runOn_bind_of_ok (runOn_ofExcept _ _)]
    simp only [numericRange?, hnonempty]
    exact runOn_bind_of_ok (redrivePolicy_of_standing h)
  exact runOn_bind_of_ok hset

end All

end

end Service

end QueueService
