/-!
# UTF-8

Writing a text as bytes, and reading bytes as text. Reading goes character by character: at each point
the bytes either begin a well-formed character or a malformed sequence, whose length is the longest
run that could have begun a well-formed one (and at least one byte).

## Contents
- `encode`: the bytes of a text.
- `next?`: one step of reading.
- `decode?`: the text of well-formed bytes.
- `decodeLossy`: the text with each malformed sequence replaced by U+FFFD.
-/

namespace QueueService.Utf8

/-- The bytes of a text. -/
def encode (text : String) : List UInt8 := text.toList.flatMap String.utf8EncodeChar

/-! ## One step of reading -/

/-- A continuation byte carries six bits behind the mark `10`. -/
def isContinuation (b : UInt8) : Bool := 0x80 ≤ b && b ≤ 0xBF

/-- The bits that a continuation byte carries. -/
def payload (b : UInt8) : Nat := b.toNat % 64

/-- The range of the byte behind a leading byte of a sequence of three or four, which shuts out
    overlong forms, surrogates and values above the last code point. -/
def isSecond (lead second : UInt8) : Bool :=
  if lead = 0xE0 then 0xA0 ≤ second && second ≤ 0xBF
  else if lead = 0xED then 0x80 ≤ second && second ≤ 0x9F
  else if lead = 0xF0 then 0x90 ≤ second && second ≤ 0xBF
  else if lead = 0xF4 then 0x80 ≤ second && second ≤ 0x8F
  else isContinuation second

/-- The character that starts the bytes behind `lead`, or `none` where they are malformed, with the
    number of bytes of `rest` that belong to it. -/
def afterLead (lead : UInt8) (rest : List UInt8) : Option Char × Nat :=
  if lead < 0x80 then (some (Char.ofNat lead.toNat), 0)
  else if 0xC2 ≤ lead && lead ≤ 0xDF then
    match rest with
    | b :: _ =>
      if isContinuation b then (some (Char.ofNat (lead.toNat % 32 * 64 + payload b)), 1)
      else (none, 0)
    | [] => (none, 0)
  else if 0xE0 ≤ lead && lead ≤ 0xEF then
    match rest with
    | b :: more =>
      if isSecond lead b then
        match more with
        | c :: _ =>
          if isContinuation c then
            (some (Char.ofNat (lead.toNat % 16 * 4096 + payload b * 64 + payload c)), 2)
          else (none, 1)
        | [] => (none, 1)
      else (none, 0)
    | [] => (none, 0)
  else if 0xF0 ≤ lead && lead ≤ 0xF4 then
    match rest with
    | b :: more =>
      if isSecond lead b then
        match more with
        | c :: more =>
          if isContinuation c then
            match more with
            | d :: _ =>
              if isContinuation d then
                (some (Char.ofNat (lead.toNat % 8 * 262144 + payload b * 4096 + payload c * 64
                  + payload d)), 3)
              else (none, 2)
            | [] => (none, 2)
          else (none, 1)
        | [] => (none, 1)
      else (none, 0)
    | [] => (none, 0)
  else (none, 0)

/-! ## Reading whole texts -/

/-- The characters of the bytes in reverse order, put in front of `acc`; `none` stands for a malformed
    sequence. -/
def scan (acc : List (Option Char)) : List UInt8 → List (Option Char)
  | [] => acc
  | lead :: rest =>
    let step := afterLead lead rest
    scan (step.1 :: acc) (rest.drop step.2)
termination_by bytes => bytes.length
decreasing_by simp only [List.length_drop, List.length_cons]; omega

/-- The characters of the bytes, with `none` for each malformed sequence. -/
def characters (bytes : List UInt8) : List (Option Char) := (scan [] bytes).reverse

/-- The text of well-formed bytes. -/
def decode? (bytes : List UInt8) : Option String :=
  let cs := characters bytes
  if cs.all Option.isSome then some (String.ofList (cs.filterMap id)) else none

/-- The text of the bytes, with U+FFFD for each malformed sequence. -/
def decodeLossy (bytes : List UInt8) : String :=
  String.ofList ((characters bytes).map fun c => c.getD '\uFFFD')

end QueueService.Utf8
