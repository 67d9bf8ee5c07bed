/-!
# Base64

The standard alphabet with `=` padding. Reading is strict: padding is required, nothing may stand
between or behind the groups, and the bits that padding leaves over are zero, so that each sequence of
bytes has one written form.
-/

namespace QueueService.Base64

/-! ## Digits -/

/-- The digit of a value below 64. -/
def digitChar (n : Nat) : Char :=
  if n < 26 then Char.ofNat (0x41 + n)
  else if n < 52 then Char.ofNat (0x61 + (n - 26))
  else if n < 62 then Char.ofNat (0x30 + (n - 52))
  else if n = 62 then '+'
  else '/'

/-- The value of a digit. -/
def digitValue? (c : Char) : Option Nat :=
  let n := c.toNat
  if 0x41 ≤ n && n ≤ 0x5A then some (n - 0x41)
  else if 0x61 ≤ n && n ≤ 0x7A then some (n - 0x61 + 26)
  else if 0x30 ≤ n && n ≤ 0x39 then some (n - 0x30 + 52)
  else if c = '+' then some 62
  else if c = '/' then some 63
  else none

theorem digitValue?_digitChar {n : Nat} (h : n < 64) : digitValue? (digitChar n) = some n := by
  have hall : ∀ m ∈ List.range 64, digitValue? (digitChar m) = some m := by decide
  exact hall n (List.mem_range.mpr h)

/-! ## Writing -/

/-- The written form in reverse order, in front of `acc`. -/
def write (acc : List Char) : List UInt8 → List Char
  | [] => acc
  | [a] =>
    '=' :: '=' :: digitChar (a.toNat % 4 * 16) :: digitChar (a.toNat / 4) :: acc
  | [a, b] =>
    '=' :: digitChar (b.toNat % 16 * 4) :: digitChar (a.toNat % 4 * 16 + b.toNat / 16)
      :: digitChar (a.toNat / 4) :: acc
  | a :: b :: c :: rest =>
    write (digitChar (c.toNat % 64) :: digitChar (b.toNat % 16 * 4 + c.toNat / 64)
      :: digitChar (a.toNat % 4 * 16 + b.toNat / 16) :: digitChar (a.toNat / 4) :: acc) rest

/-- Write bytes as text. -/
def encode (bytes : List UInt8) : String := String.ofList (write [] bytes).reverse

/-! ## Reading -/

/-- The bytes of a full group of four digits, last byte first. -/
def group? (a b c d : Char) : Option (List UInt8) := do
  let a ← digitValue? a
  let b ← digitValue? b
  let c ← digitValue? c
  let d ← digitValue? d
  return [UInt8.ofNat (c % 4 * 64 + d), UInt8.ofNat (b % 16 * 16 + c / 4),
    UInt8.ofNat (a * 4 + b / 16)]

/-- The bytes of the last group, which may be padded, last byte first. -/
def lastGroup? (a b c d : Char) : Option (List UInt8) :=
  if d = '=' then
    if c = '=' then do
      let a ← digitValue? a
      let b ← digitValue? b
      if b % 16 = 0 then return [UInt8.ofNat (a * 4 + b / 16)] else none
    else do
      let a ← digitValue? a
      let b ← digitValue? b
      let c ← digitValue? c
      if c % 4 = 0 then
        return [UInt8.ofNat (b % 16 * 16 + c / 4), UInt8.ofNat (a * 4 + b / 16)]
      else none
  else group? a b c d

/-- The bytes of the text in reverse order, in front of `acc`. -/
def read? (acc : List UInt8) : List Char → Option (List UInt8)
  | [] => some acc
  | [a, b, c, d] => (lastGroup? a b c d).map (· ++ acc)
  | a :: b :: c :: d :: rest =>
    match group? a b c d with
    | some bytes => read? (bytes ++ acc) rest
    | none => none
  | _ => none

/-- Read the written form of some bytes. -/
def decode? (text : String) : Option (List UInt8) := (read? [] text.toList).map List.reverse

end QueueService.Base64
