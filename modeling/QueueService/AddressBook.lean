import QueueService.Queue.Id
import QueueService.Url.Basic

/-!
# Queue addresses

Callers name queues by locators: addresses, or bare paths. A locator names a queue by the last two of
its segments, which have to be all there is apart from a fixed service path in front. Writing a
queue's address is the other direction.

## Contents
- `AddressBook`: the endpoint under which queues are addressed and the accounts that exist.
- `AddressBook.resolve?`, `AddressBook.url`: the two directions.
-/

namespace QueueService

/-- The endpoint that addresses start with, and the accounts that exist. -/
structure AddressBook where
  endpoint : String
  accounts : List String
  deriving DecidableEq

namespace AddressBook

/-- An address book for an endpoint, whose slashes at the end do not count. -/
def ofEndpoint (endpoint : String) (accounts : List String) : AddressBook :=
  { endpoint := String.ofList (endpoint.toList.reverse.dropWhile (· == '/')).reverse, accounts }

/-! ## Reading -/

/-- The path of a locator: of a bare path what stands before its query and fragment, else the path of
    an address. -/
def locatorPath? (locator : String) : Option (List Char) :=
  match locator.toList with
  | '/' :: rest => some ('/' :: rest.takeWhile fun c => !Url.endsPath c)
  | _ => (Url.path? locator).map String.toList

/-- The segments of a path that are not empty. -/
def segments (path : List Char) : List String :=
  ((path.splitOn '/').filter (!·.isEmpty)).map String.ofList

/-- The queue that segments name: an account and a name, alone or behind the service path. -/
def idOfSegments? : List String → Option QueueId
  | [account, name] => some { account, name }
  | [first, second, account, name] =>
    if first = "services" ∧ second = "simplequeue" then some { account, name } else none
  | _ => none

/-- The queue that a locator names, if its account exists. -/
def resolve? (book : AddressBook) (locator : String) : Option QueueId :=
  match (locatorPath? locator).bind fun path => idOfSegments? (segments path) with
  | some id => if book.accounts.contains id.account then some id else none
  | none => none

/-! ## Writing -/

/-- The address of a queue. -/
def url (book : AddressBook) (id : QueueId) : String :=
  book.endpoint ++ "/" ++ id.account ++ "/" ++ id.name

end AddressBook

end QueueService
