import QueueService.Binary64.Shortest
import QueueService.Json.Basic

/-!
# JSON text

The compact text of a value: no blanks, the members of an object in ascending order of their names, and
in strings an escape for quotes, backslashes and control characters only.
-/

namespace QueueService.Json

/-- The written form of a character inside a string. -/
def escapeChar (c : Char) : List Char :=
  if c = '"' then ['\\', '"']
  else if c = '\\' then ['\\', '\\']
  else if c = '\x08' then ['\\', 'b']
  else if c = '\x0c' then ['\\', 'f']
  else if c = '\n' then ['\\', 'n']
  else if c = '\r' then ['\\', 'r']
  else if c = '\t' then ['\\', 't']
  else if c.toNat < 0x20 then
    ['\\', 'u', '0', '0', Nat.digitChar (c.toNat / 16), Nat.digitChar (c.toNat % 16)]
  else [c]

/-- The written form of a string, with its quotes. -/
def quoted (s : String) : List Char := '"' :: s.toList.flatMap escapeChar ++ ['"']

/-- Binary64 numbers from a hundred-thousandth on and below ten to the sixteenth have no exponent, and
    always a fraction. -/
def numberLayout : Binary64.Layout :=
  { leastPlain := -5, plainBound := 16, wholeFraction := true }

/-- The written form of a number. -/
def Number.write : Number → List Char
  | .integer i => (toString i).toList
  | .binary negative x => (if negative then ['-'] else []) ++ Binary64.render numberLayout x

mutual

/-- The written form of a value. -/
def write : Json → List Char
  | .null => ['n', 'u', 'l', 'l']
  | .bool true => ['t', 'r', 'u', 'e']
  | .bool false => ['f', 'a', 'l', 's', 'e']
  | .number n => n.write
  | .string s => quoted s
  | .array [] => ['[', ']']
  | .array (v :: rest) => '[' :: write v ++ writeElements rest ++ [']']
  | .object [] => ['\x7b', '\x7d']
  | .object ((name, v) :: rest) =>
    '\x7b' :: quoted name ++ ':' :: write v ++ writeMembers rest ++ ['\x7d']

/-- The elements behind the first one, each behind a comma. -/
def writeElements : List Json → List Char
  | [] => []
  | v :: rest => ',' :: write v ++ writeElements rest

/-- The members behind the first one, each behind a comma. -/
def writeMembers : List (String × Json) → List Char
  | [] => []
  | (name, v) :: rest => ',' :: quoted name ++ ':' :: write v ++ writeMembers rest

end

/-- The compact text of a value. -/
def toText (v : Json) : String := String.ofList (write v)

end QueueService.Json
