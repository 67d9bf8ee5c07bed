/-!
# Alphabets

The character sets that names, identifiers and message texts are drawn from. Each is a predicate on
characters; the two that are also asked about bare code points have a numeric form.
-/

namespace QueueService.Alphabet

/-! ## Message text -/

/-- Code points allowed in message bodies and in text values. -/
def isBodyCodePoint (n : Nat) : Bool :=
  n == 0x9 || n == 0xA || n == 0xD || (0x20 ≤ n && n ≤ 0xD7FF) || (0xE000 ≤ n && n ≤ 0xFFFD)
    || (0x10000 ≤ n && n ≤ 0x10FFFF)

/-- Characters allowed in message bodies and in text values. -/
def isBodyChar (c : Char) : Bool := isBodyCodePoint c.toNat

/-- The set of `isBodyCodePoint` as refusals quote it. -/
def bodyCharSet : String :=
  "#x9 | #xA | #xD | [#x20-#xD7FF] | [#xE000-#xFFFD] | [#x10000-#x10FFFF]"

/-- The first character of a text that a message body may not contain. -/
def firstNonBodyChar? (text : String) : Option Char :=
  text.toList.find? fun c => !isBodyChar c

theorem firstNonBodyChar?_eq_none_iff {text : String} :
    firstNonBodyChar? text = none ↔ ∀ c ∈ text.toList, isBodyChar c = true := by
  simp [firstNonBodyChar?]

/-! ## Attribute names -/

/-- ASCII letters and digits. -/
def isAsciiAlphanumeric (n : Nat) : Bool :=
  (0x30 ≤ n && n ≤ 0x39) || (0x41 ≤ n && n ≤ 0x5A) || (0x61 ≤ n && n ≤ 0x7A)

/-- Code points allowed in attribute names: ASCII letters and digits, hyphen, dot and underscore. -/
def isAttributeNameCodePoint (n : Nat) : Bool :=
  n == 0x2D || n == 0x2E || n == 0x5F || isAsciiAlphanumeric n

/-- Characters allowed in attribute names. -/
def isAttributeNameChar (c : Char) : Bool := isAttributeNameCodePoint c.toNat

/-- The first character of a text that an attribute name may not contain. -/
def firstNonAttributeNameChar? (text : String) : Option Char :=
  text.toList.find? fun c => !isAttributeNameChar c

theorem firstNonAttributeNameChar?_eq_none_iff {text : String} :
    firstNonAttributeNameChar? text = none ↔ ∀ c ∈ text.toList, isAttributeNameChar c = true := by
  simp [firstNonAttributeNameChar?]

/-! ## Queue names and batch entry identifiers -/

/-- Characters allowed in queue names: ASCII letters and digits, hyphen and underscore. -/
def isQueueNameChar (c : Char) : Bool :=
  c == '-' || c == '_' || isAsciiAlphanumeric c.toNat

/-- Queue names have between one and `maxLength` characters of their alphabet. -/
def isQueueName (maxLength : Nat) (name : String) : Bool :=
  !name.isEmpty && name.length ≤ maxLength && name.toList.all isQueueNameChar

theorem isQueueName_iff {maxLength : Nat} {name : String} :
    isQueueName maxLength name = true ↔
      name ≠ "" ∧ name.length ≤ maxLength ∧ ∀ c ∈ name.toList, isQueueNameChar c = true := by
  simp [isQueueName, and_assoc]

/-- Batch entry identifiers share the alphabet of queue names and have at most 80 characters. -/
def isBatchEntryId (id : String) : Bool := isQueueName 80 id

/-! ## Naming a character -/

/-- A character as refusals name it: its code point in hexadecimal, such as `#x1f`. -/
def codePointLabel (c : Char) : String :=
  "#x" ++ String.ofList (Nat.toDigits 16 c.toNat)

end QueueService.Alphabet
