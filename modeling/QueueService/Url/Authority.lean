import QueueService.Url.Address6
import QueueService.Url.Domain.Basic
import QueueService.Url.Path

/-!
# Authorities of addresses

The authority of an address names a host, and perhaps a user in front of it and a port behind it. It
ends at a slash.

## Contents
- `isHost`: the texts that are hosts.
- `afterAuthority?`: what follows an authority.
-/

namespace QueueService.Url

/-- Characters that no host of an unknown scheme may contain. -/
def isForbiddenInHost (c : Char) : Bool :=
  c == '\x00' || c == '\t' || c == '\n' || c == '\r' || c == ' ' || c == '#' || c == '/' || c == ':'
    || c == '<' || c == '>' || c == '?' || c == '@' || c == '[' || c == '\\' || c == ']' || c == '^'
    || c == '|'

/-- Whether a text is a host. A bracket starts a numeric one. -/
def isHost (named : Bool) (cs : List Char) : Bool :=
  match cs with
  | '[' :: rest => rest.getLast? == some ']' && isAddress6 rest.dropLast
  | _ => if named then (domain? cs).isSome else !cs.any isForbiddenInHost

/-- Split the host off. It ends at a colon that does not stand in brackets, and with the authority. The
    host is gathered in reverse order. -/
def splitHost (backslashes bracketed : Bool) (host : List Char) :
    List Char → List Char × List Char
  | [] => (host.reverse, [])
  | c :: rest =>
    if (c == ':' && !bracketed) || isSlash backslashes c then (host.reverse, c :: rest)
    else splitHost backslashes (c == '[' || (bracketed && c != ']')) (c :: host) rest

/-- What follows the port, if the text starts with a colon and a port: any digits, up to 65535, and then
    the end of the authority. Without a colon there is no port. -/
def afterPort? : List Char → Option (List Char)
  | ':' :: rest =>
    let digits := rest.takeWhile Char.isDigit
    let after := rest.dropWhile Char.isDigit
    let ends := after.head?.all fun c => c == '/' || c == '\\'
    if ends && Nat.ofDigitChars 10 digits 0 ≤ 65535 then some after else none
  | cs => some cs

/-- The user of an authority, if it names one: what stands before its last `@`; and what follows. -/
def splitUser (backslashes : Bool) (cs : List Char) : Option (List Char) × List Char :=
  let authority := cs.takeWhile fun c => !isSlash backslashes c
  let beyond := cs.dropWhile fun c => !isSlash backslashes c
  let host := (authority.reverse.takeWhile (· != '@')).reverse
  match authority.reverse.dropWhile (· != '@') with
  | _ :: user => (some user.reverse, host ++ beyond)
  | [] => (none, cs)

/-- What follows the authority that a text starts with. Addresses of the web have a host; in others the
    host may be empty if nothing else is there, and a user without name and password is nothing. -/
def afterAuthority? (web : Bool) (cs : List Char) : Option (List Char) :=
  let (user, cs) := splitUser web cs
  let (host, cs) := splitHost web false [] cs
  if host.isEmpty then
    if web || cs.head? == some ':' || user.any (· != [':']) then none else some cs
  else if isHost web host then afterPort? cs
  else none

end QueueService.Url
