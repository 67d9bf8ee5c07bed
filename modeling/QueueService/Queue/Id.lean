import QueueService.Arn
import QueueService.Dict.Basic

/-!
# Queue identities

A queue is identified by the account that owns it and its name. Identities are ordered by account and
then by name, so that the queues of an account stand side by side, in the order of their names.
-/

namespace QueueService

/-- The account and the name of a queue. -/
structure QueueId where
  account : String
  name : String
  deriving DecidableEq

namespace QueueId

instance : Ord QueueId := ⟨compareLex (compareOn account) (compareOn name)⟩

instance : Std.TransOrd QueueId :=
  inferInstanceAs (Std.TransCmp (compareLex (compareOn account) (compareOn name)))

instance : Std.LawfulEqOrd QueueId where
  eq_of_compare {a b} h := by
    have h' : compareLex (compareOn account) (compareOn name) a b = .eq := h
    rw [compareLex_eq_eq] at h'
    cases a
    cases b
    simpa [compareOn] using h'

/-- The resource name of a queue. -/
def arn (id : QueueId) (region : String) : Arn := Arn.ofQueue region id.account id.name

/-- The short text of an identity. -/
def toText (id : QueueId) : String := id.account ++ "/" ++ id.name

end QueueId

end QueueService
