import QueueService.Binary64.Shortest
import QueueService.Json.Reader
import QueueService.Settings.Place
import QueueService.Text.Utf8

/-!
# Settings

What the service is started with. Settings come from a file, which is a JSON document, and from the
environment, which has precedence: the variable for a setting is its place in upper or lower case, with
two underscores for each dot and behind the name of a scope. Values are converted to what a setting
needs wherever that makes sense, since variables of the environment are all texts.

## Contents
- `Settings`, `Settings.standard`.
- Conversions of values: `natural?`, `truth?`, `text?`.
- `Settings.ofDocument`, `Settings.load`.
-/

namespace QueueService

/-- What the service is started with. -/
structure Settings where
  port : Nat
  host : String
  endpoint? : Option String
  region : String
  accounts : List String
  privileged : Bool
  limits : Dict String String
  deriving DecidableEq

namespace Settings

/-- The settings of a service that is told nothing. -/
def standard : Settings where
  port := 4566
  host := "0.0.0.0"
  endpoint? := none
  region := "us-east-1"
  accounts := ["000000000000"]
  privileged := false
  limits := Dict.empty

/-- Why settings are refused. -/
inductive Error
  | notJson
  | notAnObject
  /-- The value of a setting cannot be converted. -/
  | unsuitable (name : String)
  deriving DecidableEq

/-! ## Conversions -/

/-- The texts that stand for yes, apart from numbers. -/
def affirmative : List String := ["true", "on", "yes"]

/-- The texts that stand for no, apart from numbers. -/
def negative : List String := ["false", "off", "no"]

/-- A value as a natural number. Fractions are rounded, and what is below zero by a fraction is zero. -/
def natural? : Json → Option Nat
  | .bool b => some b.toNat
  | .number (.integer i) => if 0 ≤ i then some i.toNat else none
  | .number (.binary below x) => some (if below then 0 else x.roundHalfUp)
  | .string s =>
    if affirmative.contains (Case.lower s) then some 1
    else if negative.contains (Case.lower s) then some 0
    else Integer.unsigned? 64 s
  | _ => none

/-- A value as a truth value. -/
def truth? : Json → Option Bool
  | .bool b => some b
  | .number (.integer i) => some (i != 0)
  | .number (.binary _ x) => some (x.significand != 0)
  | .string s =>
    if ("1" :: affirmative).contains (Case.lower s) then some true
    else if ("0" :: negative).contains (Case.lower s) then some false
    else none
  | _ => none

/-- Numbers as texts are written without an exponent, and whole ones without a fraction. -/
def numberLayout : Binary64.Layout :=
  { leastPlain := -400, plainBound := 400, wholeFraction := false }

/-- The text of a binary64 number. -/
def binaryText (below : Bool) (x : Binary64) : String :=
  String.ofList ((if below then ['-'] else []) ++ Binary64.render numberLayout x)

/-- A value as a text. Whole numbers that need all of 64 bits count as binary64 numbers. -/
def text? : Json → Option String
  | .string s => some s
  | .bool b => some (toString b)
  | .number (.integer i) =>
    if i.toNat < 1 <<< 63 then some (toString i)
    else (Binary64.ofNat? i.toNat).map (binaryText false)
  | .number (.binary below x) => some (binaryText below x)
  | _ => none

/-- A value as a text that may be left out. -/
def optionalText? : Json → Option (Option String)
  | .null => some none
  | v => (text? v).map some

/-- A value as a list of texts. -/
def texts? : Json → Option (List String)
  | .array elements => elements.mapM text?
  | _ => none

/-- A value as texts by name. -/
def textsByName? : Json → Option (Dict String String)
  | .object members =>
    (members.mapM fun member => (text? member.2).map (Prod.mk member.1)).map Dict.ofList
  | _ => none

/-- A value as a port. -/
def port? (v : Json) : Option Nat := (natural? v).filter (· < 1 <<< 16)

/-! ## Groups of settings -/

/-- The members of the groups, in the order in which they may also be given without their names. -/
def serverNames : List String := ["port", "host"]

/-- The members of the group of the service itself. -/
def serviceNames : List String := ["endpoint", "region", "accounts", "privileged", "limits"]

/-- A group of settings by name: an object, or an array of the values in order. A group that is not there
    is empty. -/
def group (names : List String) (name : String) (document : List (String × Json)) :
    Except Error (List (String × Json)) :=
  match Json.member? name document with
  | none => .ok []
  | some (.object members) => .ok members
  | some (.array elements) => .ok (names.zip elements)
  | some _ => .error (.unsuitable name)

/-- The setting of a group with a given name, or else a standard value. -/
def setting {α : Type} (convert : Json → Option α) (standard : α) (name : String)
    (members : List (String × Json)) : Except Error α :=
  match members.lookup name with
  | none => .ok standard
  | some v =>
    match convert v with
    | some a => .ok a
    | none => .error (.unsuitable name)

/-- The settings that a document contains. Settings that are missing have their standard values, and
    whatever else the document contains does not count. -/
def ofDocument (document : List (String × Json)) : Except Error Settings := do
  let server ← group serverNames "server" document
  let service ← group serviceNames "sqs" document
  return {
    port := ← setting port? standard.port "port" server
    host := ← setting text? standard.host "host" server
    endpoint? := ← setting optionalText? standard.endpoint? "endpoint" service
    region := ← setting text? standard.region "region" service
    accounts := ← setting texts? standard.accounts "accounts" service
    privileged := ← setting truth? standard.privileged "privileged" service
    limits := ← setting textsByName? standard.limits "limits" service }

/-! ## Sources -/

/-- Put a dot for each pair of underscores. -/
def dotted : List Char → List Char
  | '_' :: '_' :: rest => '.' :: dotted rest
  | c :: rest => c :: dotted rest
  | [] => []

/-- The written place that a variable of the environment sets, if it belongs to a scope. Case does not
    matter. -/
def placeText? (scope name : String) : Option String :=
  let start := (Case.lower scope).toList ++ ['_', '_']
  let folded := (Case.lower name).toList
  if start.isPrefixOf folded then some (String.ofList (dotted (folded.drop start.length))) else none

/-- The places that variables set, with their texts. Of variables for one place the last one counts. -/
def fromEnvironment (scope : String) (environment : List (String × String)) : Dict String String :=
  Dict.ofList (environment.filterMap fun (name, value) =>
    (placeText? scope name).map fun place => (place, value))

/-- The members of a settings file. -/
def fromFile (text : String) : Except Error (List (String × Json)) :=
  match Json.parse? text with
  | none => .error .notJson
  | some (.object members) => .ok members
  | some _ => .error .notAnObject

/-- Put values at written places, one after the other. -/
def collect (values : List (String × Json)) (document : Json) : Json :=
  values.foldl (fun document v => (Place.ofText v.1).put v.2 document) document

/-- Load the settings from a file, if there is one, and from the environment. -/
def load (scope : String) (file? : Option String) (environment : List (String × String)) :
    Except Error Settings := do
  let members ←
    match file? with
    | some text => fromFile text
    | none => .ok []
  let fromVariables :=
    (fromEnvironment scope environment).entries.map fun e => (e.1, Json.string e.2)
  ofDocument (Place.membersOf (collect fromVariables (collect members (.object []))))

end Settings

end QueueService
