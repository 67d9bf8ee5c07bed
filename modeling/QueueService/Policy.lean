import QueueService.Json.Reader

/-!
# Access policies

The form of an access policy: a JSON object whose `Statement` is one object or a non-empty array of
them, each with an effect, actions and perhaps resources. What a policy grants is not looked at.
-/

namespace QueueService.Policy

/-- What is wrong with a statement. -/
inductive StatementError
  | notAnObject
  | effect
  | action
  | resource
  deriving DecidableEq

/-- The wording of a statement's error. -/
def StatementError.message : StatementError → String
  | notAnObject => "must be an object"
  | effect => "Effect must be Allow or Deny"
  | action => "exactly one of Action or NotAction is required"
  | resource => "Resource must be a string or list of strings"

/-- Why a document is not a policy. Statements are counted from zero. -/
inductive Error
  | notJson
  | notAnObject
  | missingStatement
  | invalidStatement (index : Nat) (reason : StatementError)
  deriving DecidableEq

/-- The wording of an error. -/
def Error.message : Error → String
  | notJson => "policy is not valid JSON"
  | notAnObject => "policy must be a JSON object"
  | missingStatement => "policy has no Statement"
  | invalidStatement index reason => "statement " ++ toString index ++ ": " ++ reason.message

/-! ## Statements -/

/-- Whether a value is a string or a non-empty array of strings. -/
def isStringOrStrings : Json → Bool
  | .string _ => true
  | .array elements => !elements.isEmpty && elements.all Json.isString
  | _ => false

/-- Whether the effect is one of the two that exist. -/
def isEffect (value? : Option Json) : Bool :=
  match value?.bind Json.text? with
  | some text => text == "Allow" || text == "Deny"
  | none => false

/-- Whether of actions and exceptions from them exactly one is there and well formed. -/
def isActions (actions? exceptions? : Option Json) : Bool :=
  match actions?, exceptions? with
  | some v, none => isStringOrStrings v
  | none, some v => isStringOrStrings v
  | _, _ => false

/-- Check one statement. -/
def checkStatement : Json → Except StatementError Unit
  | .object members =>
    if !isEffect (Json.member? "Effect" members) then .error .effect
    else if !isActions (Json.member? "Action" members) (Json.member? "NotAction" members) then
      .error .action
    else if !(Json.member? "Resource" members).all isStringOrStrings
        || !(Json.member? "NotResource" members).all isStringOrStrings then
      .error .resource
    else .ok ()
  | _ => .error .notAnObject

/-- Check statements in order; `index` counts those already checked. -/
def checkStatements (index : Nat) : List Json → Except Error Unit
  | [] => .ok ()
  | statement :: rest =>
    match checkStatement statement with
    | .error reason => .error (.invalidStatement index reason)
    | .ok () => checkStatements (index + 1) rest

/-! ## Documents -/

/-- The statements of a policy: one object, or the elements of an array that is not empty. -/
def statements? : Option Json → Option (List Json)
  | some (.array elements) => if elements.isEmpty then none else some elements
  | some (.object members) => some [.object members]
  | _ => none

/-- Check a document. -/
def check (document : String) : Except Error Unit :=
  match Json.parse? document with
  | none => .error .notJson
  | some (.object members) =>
    match statements? (Json.member? "Statement" members) with
    | none => .error .missingStatement
    | some statements => checkStatements 0 statements
  | some _ => .error .notAnObject

end QueueService.Policy
