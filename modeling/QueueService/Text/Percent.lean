import QueueService.Text.Hex

/-!
# Percent-encoding

Bytes written as `%` and two hexadecimal digits. A `%` without two digits behind it stands for itself.
-/

namespace QueueService.Percent

/-- The byte that two hexadecimal digits spell. -/
def byte? (high low : UInt8) : Option UInt8 := do
  let h ← Hex.digit? (Char.ofNat high.toNat)
  let l ← Hex.digit? (Char.ofNat low.toNat)
  return UInt8.ofNat (16 * h + l)

/-- The decoded bytes in reverse order, in front of `acc`. -/
def scan (acc : List UInt8) : List UInt8 → List UInt8
  | [] => acc
  | b :: rest =>
    match rest with
    | high :: low :: rest' =>
      if b = 0x25 then
        match byte? high low with
        | some decoded => scan (decoded :: acc) rest'
        | none => scan (b :: acc) (high :: low :: rest')
      else scan (b :: acc) (high :: low :: rest')
    | rest => scan (b :: acc) rest

/-- Replace each `%` and two hexadecimal digits by the byte they spell. -/
def decode (bytes : List UInt8) : List UInt8 := (scan [] bytes).reverse

/-- The encoded form of a byte, with upper-case digits. -/
def encodeByte (b : UInt8) : List Char :=
  ['%', (Nat.digitChar (b.toNat / 16)).toUpper, (Nat.digitChar (b.toNat % 16)).toUpper]

end QueueService.Percent
