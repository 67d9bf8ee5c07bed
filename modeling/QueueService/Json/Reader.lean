import QueueService.Json.Token

/-!
# JSON documents from tokens

The second half of reading a document: tokens to a value. The builder is a machine too; the containers
that are still open stand on a stack, whose height bounds the nesting. A name that occurs twice in an
object keeps its last value.
-/

namespace QueueService.Json

/-- A container that is still open. -/
inductive Frame
  /-- An array with the elements so far, last one first. -/
  | array (elements : List Json)
  /-- An object with the members so far, and the name whose value is being read. -/
  | object (members : List (String × Json)) (name : String)

/-- What the builder waits for. -/
inductive Builder
  /-- A value. -/
  | value (stack : List Frame)
  /-- The first element of an array, or its end. -/
  | firstElement (stack : List Frame)
  /-- The first name of an object, or its end. -/
  | firstName (stack : List Frame)
  /-- A name of an object that has the members so far. -/
  | name (stack : List Frame) (members : List (String × Json))
  /-- The colon behind a name. -/
  | colon (stack : List Frame) (members : List (String × Json)) (name : String)
  /-- A comma or the end of the innermost container. -/
  | next (stack : List Frame)
  /-- The end of the document. -/
  | done (document : Json)

/-- The greatest number of containers inside each other. -/
def nestingLimit : Nat := 127

/-- Give a complete value to the innermost open container. -/
def give (v : Json) : List Frame → Builder
  | [] => .done v
  | .array elements :: stack => .next (.array (v :: elements) :: stack)
  | .object members name :: stack => .next (.object (Entries.insert name v members) name :: stack)

/-- Start on a value. -/
def startValue? (stack : List Frame) : Token → Option Builder
  | .null => some (give .null stack)
  | .bool b => some (give (.bool b) stack)
  | .number n => some (give (.number n) stack)
  | .string s => some (give (.string s) stack)
  | .openBracket => if stack.length < nestingLimit then some (.firstElement stack) else none
  | .openBrace => if stack.length < nestingLimit then some (.firstName stack) else none
  | _ => none

/-- One token. -/
def Builder.step? : Builder → Token → Option Builder
  | value stack, t => startValue? stack t
  | firstElement stack, .closeBracket => some (give (.array []) stack)
  | firstElement stack, t => startValue? (.array [] :: stack) t
  | firstName stack, .closeBrace => some (give (.object []) stack)
  | firstName stack, .string n => some (.colon stack [] n)
  | name stack members, .string n => some (.colon stack members n)
  | colon stack members n, .colon => some (.value (.object members n :: stack))
  | next (.array elements :: stack), .comma => some (.value (.array elements :: stack))
  | next (.array elements :: stack), .closeBracket =>
    some (give (.array elements.reverse) stack)
  | next (.object members _ :: stack), .comma => some (.name stack members)
  | next (.object members _ :: stack), .closeBrace => some (give (.object members) stack)
  | _, _ => none

/-- Run the builder over the tokens of a document. -/
def build? (b : Builder) : List Token → Option Json
  | [] =>
    match b with
    | .done v => some v
    | _ => none
  | t :: rest =>
    match b.step? t with
    | some b => build? b rest
    | none => none

/-- Read a document. -/
def parse? (text : String) : Option Json :=
  match Token.ofText? text with
  | some tokens => build? (.value []) tokens
  | none => none

end QueueService.Json
