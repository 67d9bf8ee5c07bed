import QueueService.Error.Service
import QueueService.Message.Outbound
import QueueService.Query.Form

/-!
# Request parameters

The parameters of a request by name. Items of a list are numbered: the parameters of the item `n` of the
list `L` are named `L.n` or start with `L.n.`, so lists and records nest in names.

## Contents
- `Params.read`: the parameters of a query string and a body.
- `required`, `integer?`, `queueLocator`: single parameters.
- `indices`, `items`: lists.
- `outbound`: a message with its attributes.
-/

namespace QueueService

/-- Parameters by name, and the path of the request that they came with. -/
structure Params where
  values : Dict String String
  path : String
  deriving DecidableEq

namespace Params

/-- Read the parameters of a query string and a body, both in form encoding. Of the values of a name the
    last one counts, those of the body behind those of the query string. -/
def read (query body : List UInt8) (path : String) : Except ServiceError Params :=
  match (Form.misfit? query).or (Form.misfit? body) with
  | some name => .error (.parameterNotText name)
  | none => .ok { values := Dict.ofList (Form.pairs query ++ Form.pairs body), path }

/-! ## Single parameters -/

/-- The value of a parameter. -/
def get? (p : Params) (name : String) : Option String := p.values.find? name

/-- The value of a parameter, empty if it is missing. -/
def getText (p : Params) (name : String) : String := (p.get? name).getD ""

/-- The value of a parameter that has to be there and not empty. -/
def required (p : Params) (name : String) : Except ServiceError String :=
  match (p.get? name).filter (!·.isEmpty) with
  | some value => .ok value
  | none => .error (.parameterMissing name)

/-- The value of a parameter that has to be an integer if it is there. -/
def integer? (p : Params) (name : String) : Except ServiceError (Option Int) :=
  match p.get? name with
  | none => .ok none
  | some value =>
    match Integer.signed? 64 (Blank.trim value) with
    | some n => .ok (some n)
    | none => .error (.parameterNotANumber name value)

/-- The locator of the queue that a request is about: a parameter, or else the path of the request
    unless that is the root. -/
def queueLocator (p : Params) : Except ServiceError String :=
  match (p.get? "QueueUrl").filter (!·.isEmpty) with
  | some locator => .ok locator
  | none => if p.path != "/" && !p.path.isEmpty then .ok p.path else p.required "QueueUrl"

/-! ## Lists -/

/-- The name of the item of a list. -/
def itemName (list : String) (n : Nat) : String := list ++ "." ++ toString n

/-- The index that a parameter's name gives for a list: what stands behind the list's name and a dot, up
    to the next dot, as an unsigned integer of 32 bits. -/
def index? (list name : String) : Option Nat :=
  let start := list.toList ++ ['.']
  if start.isPrefixOf name.toList then
    Integer.unsigned? 32 (String.ofList ((name.toList.drop start.length).takeWhile (· != '.')))
  else none

/-- The indices of a list in ascending order, each once. -/
def indices (p : Params) (list : String) : List Nat :=
  (Dict.ofList ((p.values.keys.filterMap (index? list)).map fun n => (n, ()))).keys

/-- The values of a list's items in order, for items that have one. -/
def items (p : Params) (list : String) : List String :=
  (p.indices list).filterMap fun n => p.get? (itemName list n)

/-! ## Messages -/

/-- Whether the name of some parameter starts in a given way. -/
def hasBelow (p : Params) (start : String) : Bool :=
  p.values.keys.any fun name => start.toList.isPrefixOf name.toList

/-- The value of a message attribute. -/
def offeredValue (p : Params) (base : String) : OfferedValue :=
  { dataType := p.getText (base ++ ".DataType")
    text? := p.get? (base ++ ".StringValue")
    base64? := p.get? (base ++ ".BinaryValue")
    texts := p.items (base ++ ".StringListValue")
    blobs := p.items (base ++ ".BinaryListValue") }

/-- A message attribute. It has a value if any parameter belongs to one. -/
def offeredAttribute (p : Params) (base : String) : OfferedAttribute :=
  { name := p.getText (base ++ ".Name")
    value? := if p.hasBelow (base ++ ".Value.") then some (p.offeredValue (base ++ ".Value")) else none }

/-- The message attributes of a list. -/
def offeredAttributes (p : Params) (list : String) : List OfferedAttribute :=
  (p.indices list).map fun n => p.offeredAttribute (itemName list n)

/-- The message whose parameters' names start in a given way. -/
def outbound (p : Params) (start : String) : OutboundMessage :=
  { body? := p.get? (start ++ "MessageBody")
    delay? := p.get? (start ++ "DelaySeconds")
    attributes := p.offeredAttributes (start ++ "MessageAttribute") }

end Params

end QueueService
