import QueueService.Json.Basic
import QueueService.Text.Case
import QueueService.Text.Integer

/-!
# Places in a document

Settings are named by places: names separated by dots, for members inside members, and whole numbers in
brackets, for elements of arrays. Names of members are told apart without regard to case and kept in
lower case. Putting a value at a place makes whatever containers are missing on the way.

## Contents
- `Place`, `Place.ofText`: places and their written form.
- `Place.put`: putting a value at a place.
-/

namespace QueueService

/-- One step into a document. -/
inductive Place.Step
  | member (name : String)
  /-- An element by its position; a negative one counts from the end. -/
  | element (position : Int)
  deriving DecidableEq

/-- A place in a document: the steps to a container, and one more step. -/
structure Place where
  container : List Place.Step
  last : Place.Step
  deriving DecidableEq

namespace Place

/-! ## Written form -/

/-- Whether a name may contain a character without ceasing to be one name. -/
def isNameChar (c : Char) : Bool := c.isAlphanum || c == '_' || c == '-' || c == ' '

/-- Drop spaces and tabs in front. -/
def dropBlanks (cs : List Char) : List Char := cs.dropWhile fun c => c == ' ' || c == '\t'

/-- The position written between brackets: digits behind an optional minus sign, within 64 bits. -/
def position? (cs : List Char) : Option Int :=
  match (dropBlanks (dropBlanks cs).reverse).reverse with
  | '+' :: _ => none
  | digits => Integer.signed? 64 (String.ofList digits)

/-- The steps behind the first name, last one first, in front of `steps`. -/
def stepsBehind? (steps : List Step) (cs : List Char) : Option (List Step) :=
  match cs with
  | [] => some steps
  | '.' :: rest =>
    if rest.takeWhile isNameChar = [] then none
    else
      stepsBehind? (.member (String.ofList (rest.takeWhile isNameChar)) :: steps)
        (rest.dropWhile isNameChar)
  | '[' :: rest =>
    if (rest.dropWhile (· != ']')) = [] then none
    else
      match position? (rest.takeWhile (· != ']')) with
      | some n => stepsBehind? (.element n :: steps) ((rest.dropWhile (· != ']')).drop 1)
      | none => none
  | _ => none
termination_by cs.length
decreasing_by
  · exact Nat.lt_succ_of_le (List.dropWhile_sublist _).length_le
  · simp only [List.length_drop, List.length_cons]
    exact Nat.lt_succ_of_le (Nat.le_trans (Nat.sub_le _ _) (List.dropWhile_sublist _).length_le)

/-- Read a place. A text that is no place names a member as a whole. -/
def ofText (text : String) : Place :=
  let whole : Place := { container := [], last := .member text }
  let name := text.toList.takeWhile isNameChar
  if name = [] then whole
  else
    match stepsBehind? [.member (String.ofList name)] (text.toList.dropWhile isNameChar) with
    | some (last :: before) => { container := before.reverse, last }
    | _ => whole

/-! ## Putting values -/

/-- The members of an object; other values have none. -/
def membersOf : Json → List (String × Json)
  | .object members => members
  | _ => []

/-- The elements of an array; other values have none. -/
def elementsOf : Json → List Json
  | .array elements => elements
  | _ => []

mutual

/-- Put a value under a name. An object is not put in place of what is there but joined with it. -/
def putMember (name : String) : Json → Json → Json
  | .object incoming, container =>
    let present := (Json.member? (Case.lower name) (membersOf container)).getD (.object [])
    .object (Entries.insert (Case.lower name) (joinMembers incoming present) (membersOf container))
  | value, container => .object (Entries.insert (Case.lower name) value (membersOf container))

/-- Put members into a container, one after the other. -/
def joinMembers : List (String × Json) → Json → Json
  | [], container => container
  | (name, value) :: rest, container => joinMembers rest (putMember name value container)

end

/-- The index of a position among a number of elements. -/
def index (position : Int) (size : Nat) : Nat :=
  if 0 ≤ position then position.toNat else size - position.natAbs

/-- Change the element at a position; elements missing before it are null. -/
def changeElement (position : Int) (change : Json → Json) (container : Json) : Json :=
  let elements := elementsOf container
  let i := index position elements.length
  .array ((elements ++ List.replicate (i + 1 - elements.length) Json.null).modify i change)

/-- Change what is found behind steps; members missing on the way are null. -/
def change (f : Json → Json) : List Step → Json → Json
  | [], value => f value
  | .member name :: rest, container =>
    let members := membersOf container
    let present := (Json.member? (Case.lower name) members).getD .null
    .object (Entries.insert (Case.lower name) (change f rest present) members)
  | .element n :: rest, container => changeElement n (change f rest) container

/-- Put a value at a place of a document. -/
def put (place : Place) (value : Json) (document : Json) : Json :=
  change
    (fun container =>
      match place.last with
      | .member name => putMember name value container
      | .element n => changeElement n (fun _ => value) container)
    place.container document

end Place

end QueueService
