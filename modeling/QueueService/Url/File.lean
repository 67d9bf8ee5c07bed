import QueueService.Url.Authority

/-!
# Addresses of files

The path of a file may begin with the letter of a drive. Its mark becomes a colon there, and if a tab or
line end stands behind the mark, the drive is a segment of its own. Slashes in front of a path count as
one.
-/

namespace QueueService.Url

/-- Tabs and line ends, which do not count in an address. -/
def isBreak (c : Char) : Bool := c == '\t' || c == '\n' || c == '\r'

/-- A text without tabs and line ends. -/
def dropBreaks (cs : List Char) : List Char := cs.filter (!isBreak ·)

/-! ## Drives at the start -/

/-- Split a drive off that a tab or line end cuts off from more text. -/
def cutDrive? (cs : List Char) : Option (List Char × List Char) :=
  match cs.dropWhile isBreak with
  | [] => none
  | letter :: rest =>
    match rest.dropWhile isBreak with
    | ':' :: gap :: rest =>
      let behind := dropBreaks rest
      if letter.isAlpha && isBreak gap && !behind.isEmpty then some ([letter, ':'], behind)
      else none
    | _ => none

/-- Pass the first segment of a path. What a drive is cut off from is passed whatever it is. -/
def passFirst (segment : List Char) (ahead : List (List Char)) : List (List Char) :=
  match cutDrive? segment with
  | some (drive, behind) => [encode isEncodedInPath behind, drive]
  | none =>
    let plain := encode isEncodedInPath (dropBreaks segment)
    if isDrive plain then [plain.take 1 ++ [':']] else pass [] plain ahead

/-- Walk through the segments of a file's path. Any segment may be the first one as long as none that was
    passed is left. -/
def walkInFile (passed : List (List Char)) : List (List Char) → List (List Char)
  | [] => passed.reverse
  | segment :: ahead =>
    let passed :=
      if passed.isEmpty then passFirst segment ahead
      else pass passed (encode isEncodedInPath (dropBreaks segment)) ahead
    walkInFile passed ahead

/-! ## The path -/

/-- The path that a text spells whose first slash is left out. -/
def filePathOf (cs : List Char) : List Char :=
  '/' :: (textOf (walkInFile [] (cs.splitOnP (isSlash true)))).dropWhile (· == '/')

/-- Take a slash from the front. -/
def dropSlash? (cs : List Char) : Option (List Char) :=
  match cs.dropWhile isBreak with
  | c :: rest => if isSlash true c then some rest else none
  | [] => none

/-- The path of what follows the scheme of files. Behind two slashes there may be a host, which no drive
    is. The local host is none, and without one the path keeps the slash it starts with. -/
def filePath? (cs : List Char) : Option (List Char) :=
  match (dropSlash? cs).bind dropSlash? with
  | none => some (filePathOf ((dropSlash? cs).getD cs))
  | some rest =>
    let host := dropBreaks (rest.takeWhile (!isSlash true ·))
    let path := rest.dropWhile (!isSlash true ·)
    if isDrive host then some (filePathOf rest)
    else if host.isEmpty || domain? host == some "localhost".toList then some (filePathOf path)
    else if isHost true host then some (filePathOf ((dropSlash? path).getD path))
    else none

end QueueService.Url
