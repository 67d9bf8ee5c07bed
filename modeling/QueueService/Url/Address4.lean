import QueueService.Text.Hex

/-!
# Numeric hosts of four bytes

A host whose last label is a number is an address of four bytes. It has up to four numbers between
dots, each decimal, octal behind a leading zero, or hexadecimal behind `0x`; the last number fills all
bytes that are left.
-/

namespace QueueService.Url

/-- The value of digits in a base. -/
def digitsIn? (base : Nat) (cs : List Char) : Option Nat :=
  cs.foldl
    (fun acc c =>
      match acc, Hex.digit? c with
      | some n, some d => if d < base then some (n * base + d) else none
      | _, _ => none)
    (some 0)

/-- The value of one number of an address. A prefix without digits is zero. -/
def number4? : List Char → Option Nat
  | [] => none
  | '0' :: 'x' :: ds => digitsIn? 16 ds
  | '0' :: 'X' :: ds => digitsIn? 16 ds
  | '0' :: d :: ds => digitsIn? 8 (d :: ds)
  | cs => digitsIn? 10 cs

/-- The labels of a host, without the empty one that a dot at the end leaves. -/
def labels (host : List Char) : List (List Char) :=
  let all := host.splitOn '.'
  if all.getLast? == some [] then all.dropLast else all

/-- Whether the last label of a host is a number, or at least all digits. -/
def endsInNumber (host : List Char) : Bool :=
  match (labels host).getLast? with
  | some label => (!label.isEmpty && label.all Char.isDigit) || (number4? label).isSome
  | none => false

/-- Whether a host that ends in a number is an address: at most four numbers, all but the last below
    256, and the last within the bytes that are left. -/
def isAddress4 (host : List Char) : Bool :=
  let parts := labels host
  match parts.mapM number4? with
  | none => false
  | some numbers =>
    match numbers.getLast? with
    | none => false
    | some last =>
      numbers.length ≤ 4 && numbers.dropLast.all (· < 256) && last < 1 <<< (8 * (5 - numbers.length))

end QueueService.Url
