import QueueService.Text.Hex

/-!
# Tables of characters

A property of characters is a table of runs: neighbours that share a value. A table is written as a
text of words in ascending order, one for each run. A word gives the first character in hexadecimal,
behind a hyphen the last one if it is another, and behind a colon the value if there is one.

## Contents
- `Run`, `Table`.
- `Table.run?`, `Table.contains`: the run of a character.
- `Table.ofText`, `Table.set`: reading a written table.
-/

namespace QueueService.Unicode

/-- Neighbouring characters with a common value. -/
structure Run (α : Type) where
  first : Nat
  last : Nat
  value : α

variable {α : Type}

/-- Whether a character belongs to a run. -/
def Run.covers (run : Run α) (c : Char) : Bool := run.first ≤ c.toNat && c.toNat ≤ run.last

/-- Runs, which looking up takes to be in ascending order. -/
structure Table (α : Type) where
  runs : Array (Run α)

namespace Table

/-! ## Looking up -/

/-- The place of the last run that does not begin behind `n`, if there is one. Its binary digits are
    found from the greatest down, and `place` is what they make so far. -/
def seek (table : Table α) (n place : Nat) : Nat → Nat
  | 0 => place
  | steps + 1 =>
    let next := place + 1 <<< steps
    table.seek n (if table.runs[next]?.any fun run => run.first ≤ n then next else place) steps

/-- The run that a character belongs to. -/
def run? (table : Table α) (c : Char) : Option (Run α) :=
  table.runs[table.seek c.toNat 0 (table.runs.size.log2 + 1)]?.filter fun run => run.covers c

/-- Whether a character belongs to a run. -/
def contains (table : Table α) (c : Char) : Bool := (table.run? c).isSome

/-! ## Reading -/

/-- Split a text at the first `mark`. Without one the second part is empty. -/
def cut (mark : Char) (cs : List Char) : List Char × List Char :=
  (cs.takeWhile (· != mark), (cs.dropWhile (· != mark)).drop 1)

/-- The run that a word gives. -/
def runOfWord (value : List Char → α) (word : List Char) : Run α :=
  let (ends, written) := cut ':' word
  let (first, last) := cut '-' ends
  { first := Hex.number first
    last := Hex.number (if last.isEmpty then first else last)
    value := value written }

/-- The table that a text gives, whose values are written as `value` reads them. -/
def ofText (value : List Char → α) (text : String) : Table α :=
  let words := text.toList.splitOnP fun c => c == ' ' || c == '\n'
  { runs := ((words.filter (!·.isEmpty)).map (runOfWord value)).toArray }

/-- The table of a set of characters. -/
def set (text : String) : Table Unit := ofText (fun _ => ()) text

/-- A value that lists what the characters of a run stand for, one after the other: between commas texts
    of characters, whose numbers are written between plus signs. -/
def listed (written : List Char) : List (List Char) :=
  (written.splitOn ',').map fun text =>
    (text.splitOn '+').map fun number => Char.ofNat (Hex.number number)

end Table

end QueueService.Unicode
