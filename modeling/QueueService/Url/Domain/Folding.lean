import QueueService.Url.Domain.Plain
import QueueService.Url.Domain.Variant

/-!
# Folding of host names

Host names that are written in different ways are the same if they fold to the same text. Folding makes
letters small, puts plain characters in place of their variants, full stops of other scripts included,
and drops characters without a form of their own.
-/

namespace QueueService.Url

/-- The folded form of a character; one that no host name may contain has none. -/
def fold? (c : Char) : Option (List Char) :=
  let n := c.toNat
  if n < 0x80 then some [c.toLower]
  else if plainCharacters.contains c then some [c]
  else if droppedCharacters.contains c then some []
  else
    match shiftedVariants.run? c with
    | some run => some [Char.ofNat (run.value + (n - run.first))]
    | none => (listedVariants.run? c).bind fun run => run.value[n - run.first]?

theorem fold?_of_ascii {c : Char} (h : c.toNat < 0x80) : fold? c = some [c.toLower] := if_pos h

/-- The folded form of a text. -/
def foldName? (cs : List Char) : Option (List Char) := (cs.mapM fold?).map List.flatten

theorem foldName?_of_ascii {cs : List Char} (h : ∀ c ∈ cs, c.toNat < 0x80) :
    foldName? cs = some (cs.map Char.toLower) := by
  induction cs with
  | nil => rfl
  | cons c cs ih =>
    have ascii := List.forall_mem_cons.mp h
    obtain ⟨forms, folded, eq⟩ := Option.map_eq_some_iff.mp (ih ascii.2)
    simp [foldName?, List.mapM_cons, fold?_of_ascii ascii.1, folded, eq]

end QueueService.Url
