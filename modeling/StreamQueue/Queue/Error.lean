import StreamQueue.Log.Error
import StreamQueue.StreamId
import StreamQueue.Text.Quoted
import StreamQueue.Time
import StreamQueue.Work.Error

/-!
# Errors of the work queue

Why an operation of a publisher or a run of a consumer ended. Each names what was
being done and, where an entry was at hand, the entry.
-/

namespace StreamQueue

/-- Why an operation on the queue ended. -/
inductive QueueError
  /-- The log cannot be reached. -/
  | connection (source : LogError)
  /-- The group could not be created, and not because it is there already. -/
  | init (source : LogError)
  /-- Entries could not be read. -/
  | read (source : LogError)
  /-- The work for an entry failed; the entry stays pending. -/
  | processing (id : StreamId) (source : WorkError)
  /-- The work for an entry was done but could not be acknowledged. -/
  | ack (id : StreamId) (source : LogError)
  /-- Stuck entries could not be claimed. -/
  | reclaim (source : LogError)
  /-- A message could not be appended. -/
  | publish (source : LogError)
  /-- There is no such group on the stream. -/
  | groupNotFound (group : String)
  /-- Any other refusal of the log. -/
  | log (source : LogError)
  /-- The deadline of this length has passed. -/
  | timeout (limit : Span)
  /-- The caller asked to stop. -/
  | cancelled
  deriving DecidableEq, Repr

namespace QueueError

/-- The wording of an error. -/
def message : QueueError → String
  | connection source => "Connection error: " ++ source.message
  | init source => "Failed to create consumer group: " ++ source.message
  | read source => "Error reading messages: " ++ source.message
  | processing id source => "Error processing message " ++ id.text ++ ": " ++ source.message
  | ack id source => "Error acknowledging message " ++ id.text ++ ": " ++ source.message
  | reclaim source => "Error claiming stuck messages: " ++ source.message
  | publish source => "An event has not been written to the stream: " ++ source.message
  | groupNotFound group => "Consumer group " ++ Text.quoted group ++ " not found"
  | log source => "Stream log error: " ++ source.message
  | timeout limit => "Timed out after " ++ limit.text
  | cancelled => "Cancelled"

/-- The wordings of the errors that this one was caused by, nearest first. -/
def causes : QueueError → List String
  | connection source | init source | read source | ack _ source | reclaim source
  | publish source | log source => source.message :: source.causes
  | processing _ source => [source.message]
  | groupNotFound _ | timeout _ | cancelled => []

/-- The wording of an error and of all its causes, as a person is shown it. -/
def chain (e : QueueError) : String :=
  ": ".intercalate (e.message :: e.causes)

end QueueError

end StreamQueue
