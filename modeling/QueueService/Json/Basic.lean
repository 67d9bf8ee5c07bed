import QueueService.Binary64.Basic
import QueueService.Dict.Basic

/-!
# JSON values

A JSON document as data. Numbers are whole numbers where they were written as such and fit in 64 bits,
and binary64 otherwise; the members of an object stand in ascending order of their names, each name
once.
-/

namespace QueueService

/-- A JSON number. -/
inductive Json.Number
  /-- A whole number, at least `-2 ^ 63` and below `2 ^ 64`. -/
  | integer (value : Int)
  /-- A binary64 number with its sign. -/
  | binary (negative : Bool) (magnitude : Binary64)
  deriving DecidableEq

/-- A JSON value. -/
inductive Json
  | null
  | bool (value : Bool)
  | number (value : Json.Number)
  | string (value : String)
  | array (elements : List Json)
  | object (members : List (String × Json))

namespace Json

instance : Inhabited Json := ⟨.null⟩

/-- The member of an object with a given name. -/
def member? (name : String) (members : List (String × Json)) : Option Json :=
  Entries.find? name members

/-- The text of a string value. -/
def text? : Json → Option String
  | string s => some s
  | _ => none

/-- Whether a value is a string. -/
def isString (v : Json) : Bool := v.text?.isSome

end Json

end QueueService
