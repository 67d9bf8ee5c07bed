import Mathlib
import QueueService.Proofs.Check
import QueueService.Proofs.JsonText
import QueueService.Redrive

/-!
# Redrive policies and their documents

What is accepted as a redrive policy, check by check (`parse_eq_ok_iff`, `ofValues_eq_ok_iff`), and that
the canonical document of an accepted policy is accepted as that policy again
(`parse_toDocument`). A document gives one policy at most, whoever reads it (`parse_unique`).
-/

namespace QueueService.RedrivePolicy

variable {limits : Limits} {account region document : String} {policy : RedrivePolicy}

/-! ## What is accepted -/

theorem receiveCount?_lt {v : Json} {n : Nat} (h : receiveCount? v = some n) : n < 1 <<< 32 := by
  unfold receiveCount? at h
  split at h
  · next i =>
    split at h
    · next hrange =>
      cases h
      simp only [Bool.and_eq_true, decide_eq_true_eq] at hrange
      exact hrange.2
    · cases h
  · exact Integer.unsigned?_lt h
  · cases h

theorem targetArn?_eq_some_iff {v : Json} {arn : Arn} :
    targetArn? limits v = some arn ↔ ∃ s, v = .string s ∧ Arn.parse s = .ok arn ∧
      arn.service = "sqs" ∧ Alphabet.isQueueName limits.queueNameLength arn.resource = true := by
  constructor
  · intro h
    unfold targetArn? at h
    split at h
    · next s =>
      split at h
      · next arn' hparse =>
        split at h
        · next hqueue =>
          cases h
          simp only [Bool.and_eq_true, beq_iff_eq] at hqueue
          exact ⟨s, rfl, hparse, hqueue.1, hqueue.2⟩
        · cases h
      · cases h
    · cases h
  · rintro ⟨s, rfl, hparse, hservice, hname⟩
    simp [targetArn?, hparse, hservice, hname]

theorem ofValues_eq_ok_iff {count target : Json} :
    ofValues limits account region count target = .ok policy ↔
      receiveCount? count = some policy.maxReceiveCount ∧ 1 ≤ policy.maxReceiveCount ∧
      policy.maxReceiveCount ≤ limits.maxReceiveCount ∧
      ∃ arn, targetArn? limits target = some arn ∧ arn.region = region ∧ arn.account = account ∧
        policy.target = { account := arn.account, name := arn.resource } := by
  constructor
  · intro h
    unfold ofValues at h
    split at h
    · cases h
    · next n hcount =>
      obtain ⟨hcount, hrange⟩ := Option.filter_eq_some_iff.mp hcount
      simp only [Bool.and_eq_true, decide_eq_true_eq] at hrange
      split at h
      · cases h
      · next arn htarget =>
        split at h
        · cases h
        next hregion =>
        split at h
        · cases h
        next haccount =>
        cases h
        simp only [bne_iff_ne, ne_eq, Decidable.not_not] at hregion haccount
        exact ⟨hcount, hrange.1, hrange.2, arn, htarget, hregion, haccount, rfl⟩
  · rintro ⟨hcount, hleast, hmost, arn, htarget, rfl, rfl, hpolicy⟩
    obtain ⟨n, target'⟩ := policy
    obtain rfl := hpolicy
    simp only at hcount hleast hmost
    simp [ofValues, hcount, hleast, hmost, htarget, Option.filter_some]

theorem parse_eq_ok_iff :
    parse limits account region document = .ok policy ↔
      ∃ members count target, Json.parse? document = some (.object members) ∧
        Json.member? countKey members = some count ∧ Json.member? targetKey members = some target ∧
        members.length ≤ 2 ∧ ofValues limits account region count target = .ok policy := by
  constructor
  · intro h
    unfold parse at h
    split at h
    · next members hjson =>
      have hmembers : ofMembers limits account region members = .ok policy := exceptMapError_ok h
      unfold ofMembers at hmembers
      split at hmembers
      · cases hmembers
      next count hcount =>
      split at hmembers
      · cases hmembers
      next target htarget =>
      split at hmembers
      · cases hmembers
      next hlength =>
      exact ⟨members, count, target, hjson, hcount, htarget, by omega, hmembers⟩
    · cases h
  · rintro ⟨members, count, target, hjson, hcount, htarget, hlength, hvalues⟩
    have hfew : ¬ 2 < members.length := by omega
    simp [parse, hjson, ofMembers, hcount, htarget, hfew, hvalues, Except.mapError]

/-- A document gives one policy at most, whatever the limits and whoever reads it. -/
theorem parse_unique {limits' : Limits} {account' region' : String} {policy' : RedrivePolicy}
    (h : parse limits account region document = .ok policy)
    (h' : parse limits' account' region' document = .ok policy') : policy' = policy := by
  obtain ⟨members, count, target, hjson, hcount, htarget, -, hvalues⟩ := parse_eq_ok_iff.mp h
  obtain ⟨members', count', target', hjson', hcount', htarget', -, hvalues'⟩ := parse_eq_ok_iff.mp h'
  cases hjson.symm.trans hjson'
  cases hcount.symm.trans hcount'
  cases htarget.symm.trans htarget'
  obtain ⟨hn, -, -, arn, harn, -, -, hpolicy⟩ := ofValues_eq_ok_iff.mp hvalues
  obtain ⟨hn', -, -, arn', harn', -, -, hpolicy'⟩ := ofValues_eq_ok_iff.mp hvalues'
  obtain ⟨s, rfl, hparse, -, -⟩ := targetArn?_eq_some_iff.mp harn
  obtain ⟨s', hs, hparse', -, -⟩ := targetArn?_eq_some_iff.mp harn'
  cases hs
  cases hparse.symm.trans hparse'
  have hsame : policy'.maxReceiveCount = policy.maxReceiveCount := Option.some.inj (hn'.symm.trans hn)
  have htarget : policy'.target = policy.target := hpolicy'.trans hpolicy.symm
  cases policy
  cases policy'
  simp_all

/-! ## Accepted policies -/

/-- **A policy that an account may have** in a region, under the given limits. -/
structure Valid (limits : Limits) (account region : String) (policy : RedrivePolicy) : Prop where
  count : 1 ≤ policy.maxReceiveCount ∧ policy.maxReceiveCount ≤ limits.maxReceiveCount
  fits : policy.maxReceiveCount < 1 <<< 32
  owner : policy.target.account = account
  name : Alphabet.isQueueName limits.queueNameLength policy.target.name = true
  account : ':' ∉ account.toList
  region : ':' ∉ region.toList

theorem valid_of_parse (h : parse limits account region document = .ok policy) :
    policy.Valid limits account region := by
  obtain ⟨members, count, target, -, -, -, -, hvalues⟩ := parse_eq_ok_iff.mp h
  obtain ⟨hcount, hleast, hmost, arn, harn, rfl, rfl, hpolicy⟩ := ofValues_eq_ok_iff.mp hvalues
  obtain ⟨s, -, hparse, -, hname⟩ := targetArn?_eq_some_iff.mp harn
  have hwell := (Arn.of_parse hparse).1
  exact
    { count := ⟨hleast, hmost⟩
      fits := receiveCount?_lt hcount
      owner := by rw [hpolicy]
      name := by rw [hpolicy]; exact hname
      account := hwell.account
      region := hwell.region }

/-- The members of the canonical document. -/
def members (policy : RedrivePolicy) (region : String) : List (String × Json) :=
  [(targetKey, .string (policy.target.arn region).toText),
    (countKey, .number (.integer policy.maxReceiveCount))]

/-- The tokens of the canonical document. -/
def tokens (policy : RedrivePolicy) (region : String) : List Json.Token :=
  [.openBrace, .string targetKey, .colon, .string (policy.target.arn region).toText, .comma,
    .string countKey, .colon, .number (.integer policy.maxReceiveCount), .closeBrace]

theorem ofText?_toDocument (region : String) (h : policy.maxReceiveCount < 1 <<< 32) :
    Json.Token.ofText? (policy.toDocument region) = some (policy.tokens region) := by
  have hroom : policy.maxReceiveCount ≤ Json.Number.greatest := Nat.le_of_lt (Nat.lt_trans h (by decide))
  have htext : (policy.toDocument region).toList =
      '\x7b' :: (Json.quoted targetKey ++ ':' :: (Json.quoted (policy.target.arn region).toText ++
        ',' :: (Json.quoted countKey ++ ':' :: ((toString policy.maxReceiveCount).toList ++
          '\x7d' :: [])))) := by
    have hcount : toString (policy.maxReceiveCount : Int) = toString policy.maxReceiveCount := rfl
    simp only [toDocument, Json.toText, Json.write, Json.writeMembers, Json.Number.write, hcount,
      String.toList_ofList, List.append_assoc, List.cons_append, List.nil_append]
  have hopen : Json.step? .between '\x7b' = some ([.openBrace], .between) := rfl
  have hcolon : Json.step? .between ':' = some ([.colon], .between) := rfl
  have hcomma : Json.step? .between ',' = some ([.comma], .between) := rfl
  have hclose : Json.begin? '\x7d' = some ([.closeBrace], .between) := rfl
  rw [Json.Token.ofText?, htext, Json.scan?_of_step _ hopen, Json.scan?_quoted,
    Json.scan?_of_step _ hcolon, Json.scan?_quoted, Json.scan?_of_step _ hcomma, Json.scan?_quoted,
    Json.scan?_of_step _ hcolon, Json.scan?_natural _ hroom rfl hclose]
  rfl

/-- The canonical document is read back, whatever the names in it are made of. -/
theorem parse?_toDocument (region : String) (h : policy.maxReceiveCount < 1 <<< 32) :
    Json.parse? (policy.toDocument region) = some (.object (policy.members region)) := by
  rw [Json.parse?, ofText?_toDocument region h]
  rfl

/-- **The canonical document stands for its policy.** -/
theorem Valid.parse_toDocument (h : policy.Valid limits account region) :
    parse limits account region (policy.toDocument region) = .ok policy := by
  have hname : policy.target.name ≠ "" := (Alphabet.isQueueName_iff.mp h.name).1
  have haccount : ':' ∉ policy.target.account.toList := by
    rw [h.owner]
    exact h.account
  have harn := Arn.wellFormed_ofQueue h.region haccount hname
  have hfits : policy.maxReceiveCount < 4294967296 := h.fits
  have hcount : receiveCount? (.number (.integer policy.maxReceiveCount)) =
      some policy.maxReceiveCount := by
    simp [receiveCount?, hfits]
  have htarget : targetArn? limits (.string (policy.target.arn region).toText) =
      some (policy.target.arn region) :=
    targetArn?_eq_some_iff.mpr ⟨_, rfl, Arn.parse_toText harn, rfl, h.name⟩
  have hvalues : ofValues limits account region (.number (.integer policy.maxReceiveCount))
      (.string (policy.target.arn region).toText) = .ok policy :=
    ofValues_eq_ok_iff.mpr ⟨hcount, h.count.1, h.count.2, _, htarget, rfl, h.owner, rfl⟩
  exact parse_eq_ok_iff.mpr
    ⟨_, _, _, parse?_toDocument region h.fits, rfl, rfl, Nat.le_refl 2, hvalues⟩

end QueueService.RedrivePolicy
