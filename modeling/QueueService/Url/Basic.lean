import QueueService.Text.Blank
import QueueService.Url.File

/-!
# Addresses

Reading an absolute address by the rules that browsers follow, as far as its path is concerned: which
texts are addresses at all, and what their path is.

An address starts with a scheme and a colon. The schemes of the web have an authority (user, host and
port) behind any number of slashes, and their paths may use backslashes; files may have a host; other
schemes have an authority behind two slashes, a path behind one, and behind none a text without
structure.

## Contents
- `splitScheme?`: the scheme.
- `path?`: the path of an address.
-/

namespace QueueService.Url

/-! ## The scheme -/

/-- The kinds of schemes. -/
inductive Scheme
  /-- Schemes of the web, whose addresses have a host. -/
  | web
  /-- The scheme of files. -/
  | file
  /-- Any other scheme. -/
  | other
  deriving DecidableEq

/-- The kind of a scheme by its name in lower case. -/
def Scheme.ofName (name : List Char) : Scheme :=
  if ["http".toList, "https".toList, "ws".toList, "wss".toList, "ftp".toList].contains name then web
  else if name = "file".toList then file
  else other

/-- Characters of a scheme's name. -/
def isSchemeChar (c : Char) : Bool := c.isAlphanum || c == '+' || c == '-' || c == '.'

/-- Split a scheme and its colon off. -/
def splitScheme? (cs : List Char) : Option (Scheme × List Char) :=
  let name := cs.takeWhile isSchemeChar
  match name.head?, cs.dropWhile isSchemeChar with
  | some first, ':' :: rest =>
    if first.isAlpha then some (Scheme.ofName (name.map Char.toLower), rest) else none
  | _, _ => none

/-! ## The path -/

/-- A text without the slash in front. -/
def dropSlash (backslashes : Bool) : List Char → List Char
  | c :: rest => if isSlash backslashes c then rest else c :: rest
  | [] => []

/-- The path of what follows a scheme of the web. -/
def webPath? (cs : List Char) : Option (List Char) :=
  (afterAuthority? true (cs.dropWhile (isSlash true))).map fun rest =>
    pathOf true (dropSlash true rest)

/-- The path of what follows a scheme that is neither one of the web nor that of files. -/
def otherPath? (cs : List Char) : Option (List Char) :=
  match cs with
  | '/' :: '/' :: rest =>
    (afterAuthority? false rest).map fun rest =>
      if rest.isEmpty then [] else pathOf false (dropSlash false rest)
  | '/' :: rest => some (pathOf false rest)
  | _ => some (encode isControl cs)

/-- Whether a character starts the query or the fragment. -/
def endsPath (c : Char) : Bool := c == '?' || c == '#'

/-- The path of an address. Control characters and spaces around the address do not count, nor do tabs
    and line ends in it. -/
def path? (text : String) : Option String :=
  let bare := Blank.strip (fun c => c.toNat ≤ 0x20) text.toList
  match splitScheme? (dropBreaks bare) with
  | none => none
  | some (scheme, rest) =>
    let rest := rest.takeWhile (!endsPath ·)
    let path :=
      match scheme with
      | .web => webPath? rest
      | .file => filePath? (((bare.dropWhile (· != ':')).drop 1).takeWhile (!endsPath ·))
      | .other => otherPath? rest
    path.map String.ofList

end QueueService.Url
