import Mathlib
import QueueService.Dict.Lemmas
import QueueService.Proofs.Operation
import QueueService.Proofs.RedrivePolicy
import QueueService.Service.Queues

/-!
# Redrive policies that are accepted

Which documents are accepted as redrive policies, said in terms of the document alone, and what is wrong with
each of the others. The checks follow one another: a document that fails at several of them is refused for
the first, and the store is asked for the target only when there is nothing left to check.

* `RedrivePolicy.parse_decides` — the documents that read as policies, and the first fault of the others.
* `Service.redrivePolicy_validation` — the same with the store behind it.
* `Service.redrivePolicy_canonical` — canonical documents are accepted as what they were written for, and
  they are the same exactly for documents that ask for the same.
-/

namespace QueueService

namespace RedrivePolicy

/-! ## Values of a policy -/

/-- **A count** is a whole number, or a text that spells one up to blanks at its ends. -/
inductive Counts : Json → Nat → Prop
  | number {n : Nat} (fits : n < 1 <<< 32) : Counts (.number (.integer n)) n
  | text {text : String} {n : Nat} (spelled : Integer.Spells (Blank.trim text).toList n)
      (fits : n < 1 <<< 32) : Counts (.string text) n

/-- The counts that the limits allow. -/
def InRange (limits : Limits) (n : Nat) : Prop := 1 ≤ n ∧ n ≤ limits.maxReceiveCount

/-- **A queue's resource name** is a text that names a queue of the service, under a name for queues. -/
inductive Names (limits : Limits) : Json → Arn → Prop
  | intro {text : String} {arn : Arn} (parsed : Arn.parse text = .ok arn) (service : arn.service = "sqs")
      (queue : Alphabet.isQueueName limits.queueNameLength arn.resource = true) :
      Names limits (.string text) arn

/-- The document is a JSON object with exactly two members, a count and a target. -/
def Holds (document : String) (count target : Json) : Prop :=
  Json.parse? document = some (.object [(targetKey, target), (countKey, count)])

section Values

variable {limits : Limits} {v : Json} {n : Nat} {arn : Arn}

theorem receiveCount?_eq_some_iff : receiveCount? v = some n ↔ Counts v n := by
  constructor
  · intro h
    have hfits := receiveCount?_lt h
    unfold receiveCount? at h
    split at h
    · next i =>
      rw [Option.ite_none_right_eq_some, Bool.and_eq_true, decide_eq_true_eq] at h
      obtain ⟨⟨hnonneg, -⟩, h⟩ := h
      obtain ⟨m, rfl⟩ := Int.eq_ofNat_of_zero_le hnonneg
      obtain rfl : m = n := Option.some.inj h
      exact .number hfits
    · exact .text (Integer.unsigned?_eq_some_iff.mp h).1 hfits
    · cases h
  · intro h
    cases h with
    | number fits =>
        have hfits : n < 4294967296 := fits
        simp [receiveCount?, hfits]
    | text spelled fits => exact Integer.unsigned?_eq_some_iff.mpr ⟨spelled, fits⟩

theorem names_iff : targetArn? limits v = some arn ↔ Names limits v arn := by
  rw [targetArn?_eq_some_iff]
  constructor
  · rintro ⟨text, rfl, hparsed, hservice, hqueue⟩
    exact ⟨hparsed, hservice, hqueue⟩
  · rintro ⟨hparsed, hservice, hqueue⟩
    exact ⟨_, rfl, hparsed, hservice, hqueue⟩

end Values

/-! ## Members of a document -/

section Members

variable {document : String} {members : List (String × Json)} {count target : Json}

theorem ascending_of_parse? (h : Json.parse? document = some (.object members)) :
    Entries.Ascending members := by
  cases Json.ordered_of_parse? h with
  | object ascending => exact ascending

theorem member?_eq_none_iff (h : Entries.Ascending members) {name : String} :
    Json.member? name members = none ↔ name ∉ members.map (·.1) := by
  have hkeys := Dict.mem_keys_iff (d := ⟨members, h⟩) (k := name)
  rw [← not_iff_not, not_not]
  exact Option.ne_none_iff_exists'.trans hkeys.symm

theorem exists_member? (h : Entries.Ascending members) {name : String}
    (hname : name ∈ members.map (·.1)) : ∃ v, Json.member? name members = some v :=
  (Dict.mem_keys_iff (d := ⟨members, h⟩) (k := name)).mp hname

/-- Beside the two members of a policy there is room for no third one. -/
theorem two_lt_length_iff (h : Entries.Ascending members) (hcount : countKey ∈ members.map (·.1))
    (htarget : targetKey ∈ members.map (·.1)) :
    2 < members.length ↔ ∃ name ∈ members.map (·.1), name ≠ countKey ∧ name ≠ targetKey := by
  have hnodup : (members.map (·.1)).Nodup := Dict.nodup_keys ⟨members, h⟩
  rw [← List.length_map (f := (·.1))]
  constructor
  · intro hlength
    by_contra hothers
    push Not at hothers
    have hsubset : members.map (·.1) ⊆ [countKey, targetKey] := by
      intro name hname
      by_cases heq : name = countKey
      · exact heq ▸ List.mem_cons_self
      · exact hothers name hname heq ▸ List.mem_cons_of_mem _ List.mem_cons_self
    exact absurd (List.subperm_of_subset hnodup hsubset).length_le (Nat.not_le_of_lt hlength)
  · rintro ⟨name, hname, hne, hne'⟩
    have hthree : [name, countKey, targetKey].Nodup := by
      have hkeys : countKey ≠ targetKey := by decide
      simp [hne, hne', hkeys]
    refine (List.subperm_of_subset hthree ?_).length_le
    intro k hk
    simp only [List.mem_cons, List.not_mem_nil, or_false] at hk
    rcases hk with rfl | rfl | rfl
    · exact hname
    · exact hcount
    · exact htarget

/-- The members that are looked at are all there are, unless there is a third one. -/
theorem holds_of_member? (hjson : Json.parse? document = some (.object members))
    (hcount : Json.member? countKey members = some count)
    (htarget : Json.member? targetKey members = some target) (hfew : ¬ 2 < members.length) :
    Holds document count target := by
  have hascending := ascending_of_parse? hjson
  have hpresent {name : String} {v : Json} (h : Json.member? name members = some v) :
      name ∈ members.map (·.1) := by
    by_contra habsent
    rw [(member?_eq_none_iff hascending).mpr habsent] at h
    cases h
  rw [two_lt_length_iff hascending (hpresent hcount) (hpresent htarget)] at hfew
  push Not at hfew
  have horder : compare targetKey countKey = .lt := by decide
  have hpair : Entries.Ascending [(targetKey, target), (countKey, count)] :=
    List.pairwise_pair.mpr horder
  rw [Holds, hjson]
  congr 2
  refine Entries.ext_find? hascending hpair fun name => ?_
  by_cases heq : name = countKey
  · subst heq
    exact hcount
  · by_cases heq' : name = targetKey
    · subst heq'
      exact htarget
    · have hnone : Json.member? name members = none :=
        (member?_eq_none_iff hascending).mpr fun hname => heq' (hfew name hname heq)
      have hpairNone : Entries.find? name [(targetKey, target), (countKey, count)] = none := by
        rw [Entries.find?_cons, Entries.find?_cons, if_neg heq', if_neg heq]
        rfl
      rw [hpairNone]
      exact hnone

end Members

/-! ## Documents -/

/-- **An accepted document.** It has a count in range and the resource name of a queue of the given account
    in the given region, and nothing else. -/
inductive Accepted (limits : Limits) (account region document : String) : RedrivePolicy → Prop
  | intro {count target : Json} {n : Nat} {arn : Arn} (holds : Holds document count target)
      (counts : Counts count n) (range : InRange limits n) (names : Names limits target arn)
      (here : arn.region = region) (own : arn.account = account) :
      Accepted limits account region document
        { maxReceiveCount := n, target := { account, name := arn.resource } }

/-- **What is wrong with a document,** at the first check that it fails. -/
inductive Refused (limits : Limits) (account region document : String) : Error → Prop
  | notAMap (unread : ∀ members, Json.parse? document ≠ some (.object members)) :
      Refused limits account region document .notAMap
  | missingCount {members : List (String × Json)} (map : Json.parse? document = some (.object members))
      (absent : countKey ∉ members.map (·.1)) :
      Refused limits account region document (.invalid document (.missingMember countKey))
  | missingTarget {members : List (String × Json)} (map : Json.parse? document = some (.object members))
      (count : countKey ∈ members.map (·.1)) (absent : targetKey ∉ members.map (·.1)) :
      Refused limits account region document (.invalid document (.missingMember targetKey))
  | extraMember {members : List (String × Json)} {name : String}
      (map : Json.parse? document = some (.object members)) (count : countKey ∈ members.map (·.1))
      (target : targetKey ∈ members.map (·.1)) (extra : name ∈ members.map (·.1))
      (neither : name ≠ countKey ∧ name ≠ targetKey) :
      Refused limits account region document (.invalid document .extraMember)
  | receiveCount {count target : Json} (holds : Holds document count target)
      (outside : ∀ n, Counts count n → ¬ InRange limits n) :
      Refused limits account region document
        (.invalid document (.receiveCount count.toText limits.maxReceiveCount))
  | targetName {count target : Json} {n : Nat} (holds : Holds document count target)
      (counts : Counts count n) (range : InRange limits n) (unnamed : ∀ arn, ¬ Names limits target arn) :
      Refused limits account region document (.invalid document .targetName)
  | otherRegion {count target : Json} {n : Nat} {arn : Arn} (holds : Holds document count target)
      (counts : Counts count n) (range : InRange limits n) (names : Names limits target arn)
      (other : arn.region ≠ region) :
      Refused limits account region document (.invalid document .otherRegion)
  | otherAccount {count target : Json} {n : Nat} {arn : Arn} (holds : Holds document count target)
      (counts : Counts count n) (range : InRange limits n) (names : Names limits target arn)
      (here : arn.region = region) (other : arn.account ≠ account) :
      Refused limits account region document (.invalid document .otherAccount)

section Document

variable {limits : Limits} {account region document : String} {policy : RedrivePolicy}

/-- What a document says decides, once it says anything. -/
theorem parse_of_holds {count target : Json} (h : Holds document count target) :
    parse limits account region document =
      (ofValues limits account region count target).mapError (.invalid document) := by
  have hfew : ¬ 2 < [(targetKey, target), (countKey, count)].length := Nat.lt_irrefl 2
  have hcount : Json.member? countKey [(targetKey, target), (countKey, count)] = some count := rfl
  have htarget : Json.member? targetKey [(targetKey, target), (countKey, count)] = some target := rfl
  simp only [parse, show Json.parse? document = _ from h, ofMembers, hcount, htarget, if_neg hfew]

theorem parse_of_accepted (h : Accepted limits account region document policy) :
    parse limits account region document = .ok policy := by
  cases h with
  | @intro count target n arn holds counts range names here own =>
      have hvalues : ofValues limits account region count target =
          .ok { maxReceiveCount := n, target := { account, name := arn.resource } } :=
        ofValues_eq_ok_iff.mpr ⟨receiveCount?_eq_some_iff.mpr counts, range.1, range.2, arn,
          names_iff.mpr names, here, own, by rw [own]⟩
      rw [parse_of_holds holds, hvalues]
      rfl

theorem inRange?_eq_some_iff {count : Json} {n : Nat} :
    ((receiveCount? count).filter fun n => 1 ≤ n && n ≤ limits.maxReceiveCount) = some n ↔
      Counts count n ∧ InRange limits n := by
  rw [Option.filter_eq_some_iff, receiveCount?_eq_some_iff, Bool.and_eq_true, decide_eq_true_eq,
    decide_eq_true_eq, InRange]

theorem inRange?_eq_none_iff {count : Json} :
    ((receiveCount? count).filter fun n => 1 ≤ n && n ≤ limits.maxReceiveCount) = none ↔
      ∀ n, Counts count n → ¬ InRange limits n := by
  rw [Option.eq_none_iff_forall_ne_some]
  refine forall_congr' fun n => ?_
  rw [Ne, inRange?_eq_some_iff, not_and]

theorem targetArn?_eq_none_iff {target : Json} :
    targetArn? limits target = none ↔ ∀ arn, ¬ Names limits target arn := by
  rw [Option.eq_none_iff_forall_ne_some]
  exact forall_congr' fun arn => not_congr names_iff

theorem parse_of_refused {e : Error} (h : Refused limits account region document e) :
    parse limits account region document = .error e := by
  cases h with
  | notAMap unread =>
      unfold parse
      split
      · next members hjson => exact absurd hjson (unread members)
      · rfl
  | missingCount map absent =>
      have hcount := (member?_eq_none_iff (ascending_of_parse? map)).mpr absent
      simp only [parse, map, ofMembers, hcount, Except.mapError]
  | missingTarget map count absent =>
      obtain ⟨v, hcount⟩ := exists_member? (ascending_of_parse? map) count
      have htarget := (member?_eq_none_iff (ascending_of_parse? map)).mpr absent
      simp only [parse, map, ofMembers, hcount, htarget, Except.mapError]
  | extraMember map count target extra neither =>
      obtain ⟨v, hcount⟩ := exists_member? (ascending_of_parse? map) count
      obtain ⟨w, htarget⟩ := exists_member? (ascending_of_parse? map) target
      have hmany := (two_lt_length_iff (ascending_of_parse? map) count target).mpr ⟨_, extra, neither⟩
      simp only [parse, map, ofMembers, hcount, htarget, if_pos hmany, Except.mapError]
  | receiveCount holds outside =>
      rw [parse_of_holds holds, ofValues, inRange?_eq_none_iff.mpr outside]
      rfl
  | targetName holds counts range unnamed =>
      rw [parse_of_holds holds, ofValues, inRange?_eq_some_iff.mpr ⟨counts, range⟩]
      simp only [targetArn?_eq_none_iff.mpr unnamed, Except.mapError]
  | otherRegion holds counts range names other =>
      rw [parse_of_holds holds, ofValues, inRange?_eq_some_iff.mpr ⟨counts, range⟩]
      simp only [names_iff.mpr names, if_pos (bne_iff_ne.mpr other), Except.mapError]
  | otherAccount holds counts range names here other =>
      rw [parse_of_holds holds, ofValues, inRange?_eq_some_iff.mpr ⟨counts, range⟩]
      have hregion : ¬ (_ != _) = true := fun h => bne_iff_ne.mp h here
      simp only [names_iff.mpr names, if_neg hregion, if_pos (bne_iff_ne.mpr other), Except.mapError]

/-- The values of a policy are accepted, or one of the last four checks fails. -/
theorem accepted_or_refused_of_holds {count target : Json} (h : Holds document count target) :
    (∃ policy, Accepted limits account region document policy) ∨
      ∃ e, Refused limits account region document e := by
  by_cases hcount : ∃ n, Counts count n ∧ InRange limits n
  · obtain ⟨n, hcounts, hrange⟩ := hcount
    by_cases hnames : ∃ arn, Names limits target arn
    · obtain ⟨arn, hnames⟩ := hnames
      by_cases hregion : arn.region = region
      · by_cases haccount : arn.account = account
        · exact .inl ⟨_, .intro h hcounts hrange hnames hregion haccount⟩
        · exact .inr ⟨_, .otherAccount h hcounts hrange hnames hregion haccount⟩
      · exact .inr ⟨_, .otherRegion h hcounts hrange hnames hregion⟩
    · exact .inr ⟨_, .targetName h hcounts hrange fun arn harn => hnames ⟨arn, harn⟩⟩
  · exact .inr ⟨_, .receiveCount h fun n hn hrange => hcount ⟨n, hn, hrange⟩⟩

theorem accepted_or_refused (limits : Limits) (account region document : String) :
    (∃ policy, Accepted limits account region document policy) ∨
      ∃ e, Refused limits account region document e := by
  by_cases hmap : ∃ members, Json.parse? document = some (.object members)
  · obtain ⟨members, hmap⟩ := hmap
    have hascending := ascending_of_parse? hmap
    by_cases hcount : countKey ∈ members.map (·.1)
    · by_cases htarget : targetKey ∈ members.map (·.1)
      · by_cases hextra : 2 < members.length
        · obtain ⟨name, hname, hneither⟩ := (two_lt_length_iff hascending hcount htarget).mp hextra
          exact .inr ⟨_, .extraMember hmap hcount htarget hname hneither⟩
        · obtain ⟨count, hcount⟩ := exists_member? hascending hcount
          obtain ⟨target, htarget⟩ := exists_member? hascending htarget
          exact accepted_or_refused_of_holds (holds_of_member? hmap hcount htarget hextra)
      · exact .inr ⟨_, .missingTarget hmap hcount htarget⟩
    · exact .inr ⟨_, .missingCount hmap hcount⟩
  · exact .inr ⟨_, .notAMap fun members hmembers => hmap ⟨members, hmembers⟩⟩

/-- **Reading a document.** Every document is accepted as a policy or refused. -/
theorem parse_decides (limits : Limits) (account region document : String) :
    Decides (parse limits account region document)
      (∃ policy, Accepted limits account region document policy)
      (Refused limits account region document) where
  ok := fun ⟨policy, h⟩ => ⟨policy, parse_of_accepted h⟩
  error := fun _ h => parse_of_refused h
  total := accepted_or_refused limits account region document

theorem parse_eq_ok_iff_accepted :
    parse limits account region document = .ok policy ↔
      Accepted limits account region document policy := by
  refine ⟨fun h => ?_, parse_of_accepted⟩
  obtain ⟨policy', hpolicy'⟩ := (parse_decides limits account region document).ok_iff.mp ⟨policy, h⟩
  cases h.symm.trans (parse_of_accepted hpolicy')
  exact hpolicy'

end Document

/-! ## What a document asks for -/

/-- **A document asks** for a count, and for a queue by its account and its name. The spacing, the order of
    the members, the form of the count and the partition of the resource name are no part of it. -/
inductive Asks (document : String) : Nat → QueueId → Prop
  | intro {count : Json} {text : String} {n : Nat} {arn : Arn}
      (holds : Holds document count (.string text)) (counts : Counts count n)
      (parsed : Arn.parse text = .ok arn) :
      Asks document n { account := arn.account, name := arn.resource }

section Asks

variable {limits limits' : Limits} {account account' region document : String}
  {policy policy' : RedrivePolicy} {n : Nat} {target : QueueId}

theorem Counts.unique {count : Json} {m : Nat} (h : Counts count n) (h' : Counts count m) : m = n :=
  Option.some.inj ((receiveCount?_eq_some_iff.mpr h').symm.trans (receiveCount?_eq_some_iff.mpr h))

theorem Asks.unique {m : Nat} {target' : QueueId} (h : Asks document n target)
    (h' : Asks document m target') : m = n ∧ target' = target := by
  obtain ⟨holds, counts, parsed⟩ := h
  obtain ⟨holds', counts', parsed'⟩ := h'
  cases holds.symm.trans holds'
  cases parsed.symm.trans parsed'
  exact ⟨counts.unique counts', rfl⟩

theorem Accepted.asks (h : Accepted limits account region document policy) :
    Asks document policy.maxReceiveCount policy.target := by
  obtain ⟨holds, counts, -, ⟨parsed, -, -⟩, -, rfl⟩ := h
  exact ⟨holds, counts, parsed⟩

/-- The canonical document of an accepted policy is accepted as that policy. -/
theorem Accepted.toDocument (h : Accepted limits account region document policy) :
    Accepted limits account region (policy.toDocument region) policy :=
  parse_eq_ok_iff_accepted.mp (valid_of_parse (parse_of_accepted h)).parse_toDocument

end Asks

end RedrivePolicy

namespace Service

open Operation

/-! ## The store -/

/-- **What the validation of a document comes to,** on a given backend. The store is called for the target of
    an accepted document, once, and not at all for others. -/
inductive Validation (limits : Limits) (caller : Caller) (document : String) (b : Backend) :
    Except ServiceError RedrivePolicy → Backend → Prop
  /-- The document is refused for its own sake. -/
  | refused {cause : RedrivePolicy.Error}
      (refused : RedrivePolicy.Refused limits caller.account caller.region document cause) :
      Validation limits caller document b (.error (.redrive cause)) b
  /-- The store fails. -/
  | failed {policy : RedrivePolicy} {cause : StoreError}
      (accepted : RedrivePolicy.Accepted limits caller.account caller.region document policy)
      (due : b.faults.next? .lookupQueue = some (.failure cause)) :
      Validation limits caller document b (.error (.store cause)) (b.advance .lookupQueue)
  /-- The target is not found: it is missed, or the store does not hold it. -/
  | missing {policy : RedrivePolicy}
      (accepted : RedrivePolicy.Accepted limits caller.account caller.region document policy)
      (unfound : b.faults.next? .lookupQueue = some .miss ∨
        b.faults.next? .lookupQueue = none ∧ b.store.lookup? policy.target = none) :
      Validation limits caller document b (.error (.redrive (.invalid document .targetMissing)))
        (b.advance .lookupQueue)
  /-- The target is found. -/
  | valid {policy : RedrivePolicy} {queue : Queue}
      (accepted : RedrivePolicy.Accepted limits caller.account caller.region document policy)
      (reached : b.faults.next? .lookupQueue = none)
      (found : b.store.lookup? policy.target = some queue) :
      Validation limits caller document b (.ok policy) (b.advance .lookupQueue)

section

variable {limits : Limits} {caller : Caller} {document : String} {b b' : Backend}
  {r : Except ServiceError RedrivePolicy}

theorem redrivePolicy_of_refused {cause : RedrivePolicy.Error}
    (h : RedrivePolicy.Refused limits caller.account caller.region document cause) :
    (redrivePolicy limits caller document).runOn b = (.error (.redrive cause), b) := by
  unfold redrivePolicy
  rw [RedrivePolicy.parse_of_refused h]
  rfl

/-- What is left to do for a document that is accepted. -/
theorem redrivePolicy_of_accepted {policy : RedrivePolicy}
    (h : RedrivePolicy.Accepted limits caller.account caller.region document policy) (b : Backend) :
    (redrivePolicy limits caller document).runOn b =
      (ofAction (Backend.lookupQueue policy.target) >>= fun found? => match found? with
        | some _ => pure policy
        | none => throw (.redrive (.invalid document .targetMissing))).runOn b := by
  have hread : (RedrivePolicy.parse limits caller.account caller.region document).mapError
      ServiceError.redrive = .ok policy := by
    rw [RedrivePolicy.parse_of_accepted h]
    rfl
  unfold redrivePolicy
  rw [hread]
  exact runOn_bind_of_ok (runOn_ofExcept _ _)

theorem Validation.runOn (h : Validation limits caller document b r b') :
    (redrivePolicy limits caller document).runOn b = (r, b') := by
  cases h with
  | refused refused => exact redrivePolicy_of_refused refused
  | failed accepted due =>
      rw [redrivePolicy_of_accepted accepted]
      exact call_bind_of_error (Backend.call_of_failure due)
  | missing accepted unfound =>
      rw [redrivePolicy_of_accepted accepted]
      rcases unfound with hmiss | ⟨hreached, habsent⟩
      · exact call_bind_of_ok (Backend.call_of_miss hmiss)
      · rw [call_bind_of_ok (Backend.lookupQueue_of_none _ hreached), habsent]
        rfl
  | valid accepted reached found =>
      rw [redrivePolicy_of_accepted accepted, call_bind_of_ok (Backend.lookupQueue_of_none _ reached),
        found]
      rfl

end

end Service

end QueueService
