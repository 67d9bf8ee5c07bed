import QueueService.Limits
import QueueService.Message.Attribute
import QueueService.Text.Alphabet
import QueueService.Text.Base64
import QueueService.Text.Number

/-!
# Accepting message attributes

The rules that an offered attribute has to pass to become a typed one, and the number of bytes that it
adds to the size of its message. The name is checked first, then the value; the first rule broken is
the one reported.

## Contents
- `AttributeError`: the rules, each by the way it is broken.
- `checkName`, `acceptValue`: the two halves.
- `accept`: one attribute of a message some of whose names are already taken.
- `acceptAll`: all attributes of a message.
-/

namespace QueueService

/-- Why an offered attribute is refused. -/
inductive AttributeError
  | nameEmpty
  | nameTooLong (limit : Nat)
  | nameReserved
  | nameSuccessiveDots
  | nameCharacter (c : Char)
  | nameTaken (name : String)
  | valueMissing (name : String)
  | typeEmpty (name : String)
  | typeUnknown (name : String)
  | typeTooLong (limit : Nat)
  | listValue
  | notBase64 (name : String)
  | valueEmpty (name : String) (dataType : String)
  | severalValues (name : String)
  | needsText (name : String) (kind : AttributeKind)
  | textCharacter (name : String) (c : Char)
  | notANumber (name : String)
  | needsBytes (name : String)
  deriving DecidableEq

/-- The wording of an error. -/
def AttributeError.message : AttributeError → String
  | nameEmpty => "Message attribute name can not be null or empty"
  | nameTooLong limit =>
    "Message attribute name can not be longer than " ++ toString limit ++ " characters"
  | nameReserved =>
    "Message attribute names starting with 'AWS.' or 'Amazon.' are reserved for use by Amazon."
  | nameSuccessiveDots => "Message attribute name can not have successive '.' characters."
  | nameCharacter c =>
    "Invalid non-alphanumeric character '" ++ Alphabet.codePointLabel c
      ++ "' was found in the message attribute name. "
      ++ "Can only include alphanumeric characters, hyphens, underscores, or dots."
  | nameTaken name => "Message attribute name '" ++ name ++ "' already exists."
  | valueMissing name =>
    "The message attribute '" ++ name ++ "' must contain non-empty message attribute value."
  | typeEmpty name =>
    "The message attribute '" ++ name ++ "' must contain non-empty message attribute type."
  | typeUnknown name =>
    "The message attribute '" ++ name ++ "' has an invalid message attribute type, "
      ++ "the set of supported type prefixes is Binary, Number, and String."
  | typeTooLong limit =>
    "Message attribute type can not be longer than " ++ toString limit ++ " bytes"
  | listValue => "Message attribute list values are not supported."
  | notBase64 name =>
    "The message attribute '" ++ name
      ++ "' contains an invalid Base64 Encoded String as a binary value"
  | valueEmpty name dataType =>
    "The message attribute '" ++ name
      ++ "' must contain non-empty message attribute value for message attribute type '" ++ dataType
      ++ "'."
  | severalValues name => "Message attribute '" ++ name ++ "' has multiple values."
  | needsText name kind =>
    "The message attribute '" ++ name ++ "' with type '" ++ kind.toText
      ++ "' must use field 'String'."
  | textCharacter name c =>
    "Invalid binary character '" ++ Alphabet.codePointLabel c
      ++ "' was found in the message attribute '" ++ name
      ++ "' value, the set of allowed characters is " ++ Alphabet.bodyCharSet
  | notANumber name => "Could not cast message attribute '" ++ name ++ "' value to number."
  | needsBytes name =>
    "The message attribute '" ++ name ++ "' with type 'Binary' must use field 'Binary'."

/-- A typed value and the bytes that it adds to its message, those of its name included. -/
structure AcceptedAttribute where
  value : AttributeValue
  size : Nat
  deriving DecidableEq

namespace OfferedAttribute

/-! ## Names -/

/-- Whether a name starts with `aws` or `amazon`, in letters of either case. -/
def isReserved (name : String) : Bool :=
  let lower := name.toList.map Char.toLower
  ['a', 'm', 'a', 'z', 'o', 'n'].isPrefixOf lower || ['a', 'w', 's'].isPrefixOf lower

/-- Whether two dots stand side by side. -/
def hasSuccessiveDots : List Char → Bool
  | '.' :: '.' :: _ => true
  | _ :: rest => hasSuccessiveDots rest
  | [] => false

/-- Check a name against the rules for names and against the names already taken. -/
def checkName (limits : Limits) (taken : List String) (name : String) :
    Except AttributeError Unit :=
  if name.isEmpty then .error .nameEmpty
  else if limits.messageAttributeNameLength < name.length then
    .error (.nameTooLong limits.messageAttributeNameLength)
  else if isReserved name then .error .nameReserved
  else if hasSuccessiveDots name.toList then .error .nameSuccessiveDots
  else
    match Alphabet.firstNonAttributeNameChar? name with
    | some c => .error (.nameCharacter c)
    | none => if taken.contains name then .error (.nameTaken name) else .ok ()

/-! ## Values -/

/-- The bytes that are offered as Base64 text, if any text is. -/
def offeredBytes (name : String) : Option String → Except AttributeError (Option (List UInt8))
  | none => .ok none
  | some text =>
    match Base64.decode? text with
    | some bytes => .ok (some bytes)
    | none => .error (.notBase64 name)

/-- The payload of a kind, from the text and the bytes offered; of the two exactly one has to be
    there and not empty, and it has to be the one that the kind uses. -/
def payload (name dataType : String) (kind : AttributeKind) (text? : Option String)
    (bytes? : Option (List UInt8)) : Except AttributeError Payload :=
  match text?.filter (!·.isEmpty), bytes?.filter (!·.isEmpty) with
  | none, none => .error (.valueEmpty name dataType)
  | some _, some _ => .error (.severalValues name)
  | some text, none =>
    if kind.usesText then
      match Alphabet.firstNonBodyChar? text with
      | some c => .error (.textCharacter name c)
      | none =>
        if kind = .number && !Number.isFiniteLiteral text then .error (.notANumber name)
        else .ok (.text text)
    else .error (.needsBytes name)
  | none, some bytes =>
    if kind.usesText then .error (.needsText name kind) else .ok (.bytes bytes)

/-- Check a value against the rules for values, and make it a typed one. -/
def acceptValue (limits : Limits) (name : String) (value? : Option OfferedValue) :
    Except AttributeError AttributeValue :=
  match value? with
  | none => .error (.valueMissing name)
  | some value =>
    if value.dataType.isEmpty then .error (.typeEmpty name)
    else
      match AttributeKind.ofDataType? value.dataType with
      | none => .error (.typeUnknown name)
      | some kind =>
        if limits.messageAttributeTypeLength < value.dataType.utf8ByteSize then
          .error (.typeTooLong limits.messageAttributeTypeLength)
        else if !value.texts.isEmpty || !value.blobs.isEmpty then .error .listValue
        else
          match offeredBytes name value.base64? with
          | .error e => .error e
          | .ok bytes? =>
            match payload name value.dataType kind value.text? bytes? with
            | .error e => .error e
            | .ok p => .ok { dataType := value.dataType, payload := p }

/-! ## Attributes -/

/-- Accept one attribute of a message. The second component lists the names taken afterwards: a name
    is taken once it has passed its own rules, whatever becomes of its value. -/
def accept (limits : Limits) (taken : List String) (offer : OfferedAttribute) :
    Except AttributeError AcceptedAttribute × List String :=
  match checkName limits taken offer.name with
  | .error e => (.error e, taken)
  | .ok () =>
    match acceptValue limits offer.name offer.value? with
    | .error e => (.error e, offer.name :: taken)
    | .ok value =>
      (.ok
        { value
          size := offer.name.utf8ByteSize + value.dataType.utf8ByteSize + value.payload.size },
        offer.name :: taken)

/-- Accept all attributes of a message in order, up to the first that is refused. -/
def acceptAll (limits : Limits) (taken : List String) :
    List OfferedAttribute → Except AttributeError (List (String × AcceptedAttribute))
  | [] => .ok []
  | offer :: rest =>
    match accept limits taken offer with
    | (.error e, _) => .error e
    | (.ok accepted, taken) =>
      match acceptAll limits taken rest with
      | .error e => .error e
      | .ok more => .ok ((offer.name, accepted) :: more)

end OfferedAttribute

end QueueService
