import QueueService.Queue.Attributes
import QueueService.Queue.Id

/-!
# Queues

A queue as its owner sees it: who it is, what it was given, and when. Times are seconds of the epoch.
-/

namespace QueueService

/-- The record of a queue. -/
structure Queue where
  id : QueueId
  attributes : QueueAttributes
  created : Int
  lastModified : Int
  deriving DecidableEq

/-- The record of a queue made at a clock reading in milliseconds. -/
def Queue.new (id : QueueId) (attributes : QueueAttributes) (now : Int) : Queue :=
  { id, attributes, created := now.fdiv 1000, lastModified := now.fdiv 1000 }

/-- Every attribute that can be asked for: those that were given, and those that follow from the
    record and the region of whoever asks. -/
def Queue.describe (queue : Queue) (region : String) : Dict QueueAttribute String :=
  queue.attributes
    |>.insert .queueArn (queue.id.arn region).toText
    |>.insert .createdTimestamp (toString queue.created)
    |>.insert .lastModifiedTimestamp (toString queue.lastModified)

end QueueService
