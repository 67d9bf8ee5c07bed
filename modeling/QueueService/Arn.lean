import QueueService.Text.Separator

/-!
# Resource names

Names of the form `arn:partition:service:region:account:resource`. Only the form is checked: partition,
service and resource are not empty, and the resource is all that follows the fifth colon, colons
included.
-/

namespace QueueService

/-- A resource name, by its fields. -/
structure Arn where
  partition : String
  service : String
  region : String
  account : String
  resource : String
  deriving DecidableEq

namespace Arn

/-- Why a text is not a resource name. -/
inductive Error
  | missingStart (text : String)
  | fieldCount (text : String)
  | emptyField (field : String) (text : String)
  deriving DecidableEq

/-- The wording of an error. -/
def Error.message : Error → String
  | .missingStart text => "ARN must start with 'arn:': " ++ text
  | .fieldCount text => "ARN must have six ':'-separated fields: " ++ text
  | .emptyField field text => "ARN field '" ++ field ++ "' must not be empty: " ++ text

/-! ## Writing -/

/-- The text of a resource name. -/
def toText (arn : Arn) : String :=
  "arn:" ++ arn.partition ++ ":" ++ arn.service ++ ":" ++ arn.region ++ ":" ++ arn.account ++ ":"
    ++ arn.resource

/-- The name of a queue. -/
def ofQueue (region account queue : String) : Arn :=
  { partition := "aws", service := "sqs", region, account, resource := queue }

/-! ## Reading -/

/-- Split a text at its first `n` colons; the last piece keeps the colons behind them. -/
def splitFields (n : Nat) (cs : List Char) : List (List Char) :=
  match n with
  | 0 => [cs]
  | n + 1 =>
    let field := cs.takeWhile (· != ':')
    match cs.dropWhile (· != ':') with
    | _ :: rest => field :: splitFields n rest
    | [] => [field]

/-- Read a resource name. -/
def parse (text : String) : Except Error Arn :=
  match text.toList with
  | 'a' :: 'r' :: 'n' :: ':' :: rest =>
    match splitFields 4 rest with
    | [p, s, r, a, x] =>
      if p.isEmpty then .error (.emptyField "partition" text)
      else if s.isEmpty then .error (.emptyField "service" text)
      else if x.isEmpty then .error (.emptyField "resource" text)
      else .ok
        { partition := String.ofList p, service := String.ofList s, region := String.ofList r,
          account := String.ofList a, resource := String.ofList x }
    | _ => .error (.fieldCount text)
  | _ => .error (.missingStart text)

/-! ## Reading what was written -/

/-- **Names that can be told from their text.** Only the resource may have colons, and only the region and
    the account may be empty. -/
structure WellFormed (arn : Arn) : Prop where
  partition : arn.partition ≠ "" ∧ ':' ∉ arn.partition.toList
  service : arn.service ≠ "" ∧ ':' ∉ arn.service.toList
  region : ':' ∉ arn.region.toList
  account : ':' ∉ arn.account.toList
  resource : arn.resource ≠ ""

theorem wellFormed_ofQueue {region account queue : String} (hregion : ':' ∉ region.toList)
    (haccount : ':' ∉ account.toList) (hqueue : queue ≠ "") : (ofQueue region account queue).WellFormed where
  partition := ⟨show "aws" ≠ "" by decide, show ':' ∉ "aws".toList by decide⟩
  service := ⟨show "sqs" ≠ "" by decide, show ':' ∉ "sqs".toList by decide⟩
  region := hregion
  account := haccount
  resource := hqueue

theorem splitFields_append {field : List Char} (h : ':' ∉ field) (n : Nat) (rest : List Char) :
    splitFields (n + 1) (field ++ ':' :: rest) = field :: splitFields n rest := by
  rw [splitFields, Separator.takeWhile_append_cons h, Separator.dropWhile_append_cons h]

/-- The other way round: a first piece that is not the last one ends at the first colon. -/
theorem splitFields_cons {n : Nat} {cs field next : List Char} {fields : List (List Char)}
    (h : splitFields n cs = field :: next :: fields) :
    ∃ m rest, n = m + 1 ∧ ':' ∉ field ∧ cs = field ++ ':' :: rest ∧
      splitFields m rest = next :: fields := by
  cases n with
  | zero => cases h
  | succ m =>
    unfold splitFields at h
    have hsplit := List.takeWhile_append_dropWhile (p := fun c => c != ':') (l := cs)
    split at h
    · next c rest hrest =>
      obtain rfl := Separator.eq_of_dropWhile hrest
      obtain ⟨rfl, hfields⟩ := List.cons.inj h
      refine ⟨m, rest, rfl, Separator.notMem_takeWhile ':' cs, ?_, hfields⟩
      rw [← hrest]
      exact hsplit.symm
    · cases h

/-- **Five fields,** of which the first four end at their first colon. -/
structure Fields (cs p s r a x : List Char) : Prop where
  written : cs = p ++ ':' :: (s ++ ':' :: (r ++ ':' :: (a ++ ':' :: x)))
  partition : ':' ∉ p
  service : ':' ∉ s
  region : ':' ∉ r
  account : ':' ∉ a

theorem splitFields_eq_iff {cs p s r a x : List Char} :
    splitFields 4 cs = [p, s, r, a, x] ↔ Fields cs p s r a x := by
  constructor
  · intro h
    obtain ⟨m₁, rest₁, hm₁, hp, rfl, h₁⟩ := splitFields_cons h
    obtain ⟨m₂, rest₂, hm₂, hs, rfl, h₂⟩ := splitFields_cons h₁
    obtain ⟨m₃, rest₃, hm₃, hr, rfl, h₃⟩ := splitFields_cons h₂
    obtain ⟨m₄, rest₄, hm₄, ha, rfl, h₄⟩ := splitFields_cons h₃
    obtain rfl : m₄ = 0 := by omega
    obtain rfl : rest₄ = x := by simpa [splitFields] using h₄
    exact ⟨rfl, hp, hs, hr, ha⟩
  · rintro ⟨rfl, hp, hs, hr, ha⟩
    rw [splitFields_append hp, splitFields_append hs, splitFields_append hr, splitFields_append ha,
      splitFields]

theorem toList_toText (arn : Arn) :
    arn.toText.toList = 'a' :: 'r' :: 'n' :: ':' :: (arn.partition.toList ++ ':' ::
      (arn.service.toList ++ ':' :: (arn.region.toList ++ ':' :: (arn.account.toList ++ ':' ::
        arn.resource.toList)))) := by
  have hstart : "arn:".toList = ['a', 'r', 'n', ':'] := rfl
  have hcolon : ":".toList = [':'] := rfl
  simp [toText, hstart, hcolon]

/-- What is read as a resource name is the text of that name. -/
theorem of_parse {text : String} {arn : Arn} (h : parse text = .ok arn) :
    arn.WellFormed ∧ arn.toText = text := by
  unfold parse at h
  split at h
  · next rest htext =>
    split at h
    · next p s r a x hfields =>
      split at h
      · cases h
      next hp =>
      split at h
      · cases h
      next hs =>
      split at h
      · cases h
      next hx =>
      cases h
      obtain ⟨rfl, hpcolon, hscolon, hrcolon, hacolon⟩ := splitFields_eq_iff.mp hfields
      constructor
      · refine ⟨⟨?_, ?_⟩, ⟨?_, ?_⟩, ?_, ?_, ?_⟩ <;> simp_all
      · apply String.toList_injective
        rw [toList_toText, htext]
        simp
    · cases h
  · cases h

/-- A name that can be told from its text is read back from it. -/
theorem parse_toText {arn : Arn} (h : arn.WellFormed) : parse arn.toText = .ok arn := by
  have hfields : splitFields 4 (arn.partition.toList ++ ':' :: (arn.service.toList ++ ':' ::
      (arn.region.toList ++ ':' :: (arn.account.toList ++ ':' :: arn.resource.toList)))) =
      [arn.partition.toList, arn.service.toList, arn.region.toList, arn.account.toList,
        arn.resource.toList] :=
    splitFields_eq_iff.mpr ⟨rfl, h.partition.2, h.service.2, h.region, h.account⟩
  have hp := h.partition.1
  have hs := h.service.1
  have hx := h.resource
  unfold parse
  rw [toList_toText]
  simp only [hfields]
  simp [hp, hs, hx]

end Arn

end QueueService
