import QueueService.Text.Percent
import QueueService.Text.Utf8
import QueueService.Url.Address4
import QueueService.Url.Domain.Label

/-!
# Named hosts

A host name may be written with percent-encoding, in letters of either case and beyond ASCII, or with
labels in their ASCII form. It is folded and brought into normal form first. What it stands for has to
keep to the direction of each label as soon as a part of it runs to the left.
-/

namespace QueueService.Url

open Unicode

/-- Characters that no folded name may contain. -/
def isForbiddenInName (c : Char) : Bool :=
  c.toNat ≤ 0x20 || c.toNat == 0x7F || c == '%' || c == '#' || c == '/' || c == ':' || c == '<'
    || c == '>' || c == '?' || c == '@' || c == '[' || c == '\\' || c == ']' || c == '^' || c == '|'

/-- Whether the labels of a folded name stand for texts that may name a host together. -/
def areLabels (labels : List (List Char)) : Bool :=
  match labels.mapM labelText? with
  | none => false
  | some texts =>
    texts.all isLabel && (!texts.any (·.any turnsLeft) || texts.all keepsDirection)

/-- Whether a folded name is that of a host. -/
def isFoldedName (name : List Char) : Bool :=
  !name.isEmpty && !name.any isForbiddenInName && areLabels (name.splitOn '.')
    && (!endsInNumber name || isAddress4 name)

/-- The folded name of the host that a text names, if it names one. -/
def domain? (cs : List Char) : Option (List Char) := do
  let text ← Utf8.decode? (Percent.decode (Utf8.encode (String.ofList cs)))
  let folded ← foldName? text.toList
  let name := normalForm folded
  if isFoldedName name then some name else none

end QueueService.Url
