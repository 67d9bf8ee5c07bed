import QueueService.Unicode.Capital
import QueueService.Unicode.Cased

/-!
# Lower case

The lower-case form of a text, for all scripts that tell two cases apart. Each character has its own
form, except for the letter sigma, which is written in another way at the end of a word.
-/

namespace QueueService.Case

open Unicode

/-- The lower-case form of a character by itself. One capital, the dotted `I`, has a form of two
    characters. -/
def lowerChar (c : Char) : List Char :=
  if c.toNat < 0x80 then [c.toLower]
  else if c.toNat = 0x130 then ['i', Char.ofNat 0x307]
  else [smallLetter c]

/-- Put the lower-case form of a text behind `done`, which like `before` is in reverse order. What stands
    in front of the text is `before`. A sigma ends a word if a letter stands in front of it and none
    behind it. -/
def lowerFrom (done before : List Char) : List Char → List Char
  | [] => done.reverse
  | c :: behind =>
    let form :=
      if c = 'Σ' ∧ beginsCased before ∧ ¬ beginsCased behind then ['ς'] else lowerChar c
    lowerFrom (form.reverse ++ done) (c :: before) behind

/-- The lower-case form of a text. -/
def lower (text : String) : String := String.ofList (lowerFrom [] [] text.toList)

end QueueService.Case
