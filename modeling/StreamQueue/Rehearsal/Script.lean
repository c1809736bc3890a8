import StreamQueue.Consumer.Config
import StreamQueue.Http.Message
import StreamQueue.Log.Feed
import StreamQueue.Publisher
import StreamQueue.Store
import StreamQueue.Work.Source

/-!
# Scripts of a rehearsal

A rehearsal plays publishers, consumers and pages against one log in memory, in
virtual time and with faults put in on purpose. Its script is a list of steps; what
each step comes to is an outcome. Clients go by names that the script gives them.
-/

namespace StreamQueue.Rehearsal

/-- A step on the log itself, past all faults. -/
inductive LogStep
  | call (c : LogCall)
  /-- A call with a text that is no identifier. -/
  | misnamed (id : String)
  /-- Append messages that are a stem and a number counted from zero. -/
  | appendMany (stream : String) (n : Nat) (stem : String) (maxLen : Nat)
  | has (stream : String)
  | entries (stream : String)
  /-- Look at all there is of a stream. -/
  | dump (stream : String)
  /-- Set the wall clock. -/
  | setWall (t : Timestamp)

/-- What a fault does to a call, in this order. -/
structure Fault where
  /-- Steps on the log before the call goes on. -/
  steps : List LogStep
  /-- The consumer that is cancelled. -/
  cancels : Option String
  delay : Span
  /-- Whether the call never comes back. -/
  hangs : Bool
  /-- The refusal that comes back instead of an answer. -/
  refusal : Option LogError

/-- A rule that puts a fault into calls. -/
structure Rule where
  /-- The operation it applies to. -/
  operation : String
  /-- The client it applies to; to all if there is none. -/
  client : Option String
  /-- How many matching calls are still passed over. -/
  skip : Nat
  /-- How often it still applies; always if there is none. -/
  times : Option Nat
  fault : Fault

/-- A step of a rehearsal. -/
inductive Step
  | log (s : LogStep)
  /-- Let time pass. -/
  | run (d : Span)
  /-- Begin a read for new entries beside the script. -/
  | startRead (name : String) (c : LogCall)
  /-- See whether a read has ended. -/
  | pollRead (name : String)
  | dropRead (name : String)
  /-- Subscribe to the notices of appends. -/
  | subscribe (name : String)
  /-- Take all notices there are. -/
  | drain (name : String)
  | addRule (r : Rule)
  /-- Remove all rules. -/
  | heal
  | newPublisher (name : String) (p : PublisherConfig)
  | publish (name message : String)
  | publishBatch (name : String) (messages : List String)
  | backlog (name group : String)
  | newConsumer (name : String) (c : ConsumerConfig) (source : SourceScript)
  | initGroup (name : String)
  /-- Begin a run beside the script. -/
  | startConsumer (name : String)
  | cancelConsumer (name : String)
  | showConsumer (name : String)
  /-- Wait for a run to end. -/
  | joinConsumer (name : String)
  | newApp (name : String) (p : PublisherConfig) (group : String)
  | http (name : String) (r : Http.Request)
  /-- A request that cannot be sent. -/
  | unsendable

/-- All there is of a stream. -/
structure Dump where
  entries : List StreamId
  /-- The groups, if the stream is there. -/
  groups : Option (List GroupInfo)
  /-- The deliveries of each group that wait to be acknowledged. -/
  pending : List (String × List PendingEntry)
  deriving Repr

/-- What a step comes to. -/
inductive Outcome
  /-- Nothing to show. -/
  | done
  | answered (c : LogCall) (result : c.Result)
  | refused (e : LogError)
  | appended (first last : Option StreamId)
  | flag (b : Bool)
  | entries (es : List Entry)
  | dump (d : Dump)
  /-- It has not ended in the time it was given. -/
  | blocked
  | notices (ns : List Received)
  | publisher (p : PublisherConfig)
  | published (result : Except QueueError StreamId)
  | batch (result : Except QueueError (List StreamId))
  | backlog (result : Except QueueError Nat)
  | consumer (c : ConsumerConfig) (state : Consumer.State)
  | group (result : Except QueueError Unit)
  /-- The state, the calls on the byte source, and whether the run has ended. -/
  | shown (state : Consumer.State) (calls : Nat) (ended : Option Bool)
  | ended (reason : QueueError)
  | response (r : Http.Response)
  | unsendable
  /-- There is no client of that name. -/
  | unknown

/-- What is recorded of a rehearsal. -/
inductive Happening
  /-- A client has started a call; a consumer shows its state. -/
  | called (client : String) (c : LogCall) (state : Option Consumer.State)
  | reported (e : Event)

/-- Something recorded and when. -/
structure Record where
  time : Instant
  happening : Happening

end StreamQueue.Rehearsal

namespace StreamQueue

/-- The name of the operation that a call asks for. -/
def LogCall.operation : LogCall → String
  | ping => "ping"
  | append .. => "append"
  | createGroup .. => "create_group"
  | readNew .. => "read_new"
  | readPending .. => "read_pending"
  | pendingEntries .. => "pending_entries"
  | pendingCount .. => "pending_count"
  | claim .. => "claim"
  | ack .. => "ack"
  | len .. => "len"
  | rangeAfter .. => "range_after"
  | groups .. => "groups"

end StreamQueue
