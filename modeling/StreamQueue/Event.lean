import StreamQueue.Queue.Error

/-!
# Events

What the parts of a queue report while they run, for an operator to follow. Each
event has a level, a message and named details, all as text; `consumer` is always
the identity under which a run reads.
-/

namespace StreamQueue

/-- How serious an event is. -/
inductive Event.Level
  | info
  | warn
  | error
  deriving DecidableEq, Repr

/-- Something worth reporting. -/
inductive Event
  /-- The log has created a group that starts after an identifier. -/
  | groupPlaced (stream group : String) (start : StreamId)
  /-- A consumer has created the group it works for. -/
  | groupReady (stream group : String)
  | consumerStarting (stream group consumer : String)
  | consumerCancelled (consumer : String)
  | consumerStopped (consumer : String) (error : QueueError)
  /-- A run has acknowledged this many entries that it found pending. -/
  | recovered (consumer : String) (count : Nat)
  /-- The work for an entry was done and acknowledged. -/
  | processed (consumer : String) (id : StreamId) (digest : String)
  /-- An entry failed and stays pending. -/
  | leftPending (consumer : String) (id : StreamId) (error : QueueError)
  | reclamationSkipped (consumer : String) (error : QueueError)
  | claimedStuck (consumer : String) (count : Nat)
  /-- A batch ended early after this many messages. -/
  | publishingStopped (published : Nat) (error : QueueError)
  | backlogUnknown (group : String) (error : QueueError)
  | livenessToggled (live : Bool)
  | readinessToggled (ready : Bool)
  | publishTimeFailed (error : QueueError)
  deriving DecidableEq, Repr

namespace Event

def level : Event → Level
  | groupPlaced .. | groupReady .. | consumerStarting .. | consumerCancelled ..
  | recovered .. | processed .. | claimedStuck .. | livenessToggled .. | readinessToggled .. => .info
  | reclamationSkipped .. | publishingStopped .. | backlogUnknown .. => .warn
  | consumerStopped .. | leftPending .. | publishTimeFailed .. => .error

def message : Event → String
  | groupPlaced .. | groupReady .. => "Created consumer group"
  | consumerStarting .. => "Starting consumer"
  | consumerCancelled .. => "Consumer cancelled"
  | consumerStopped .. => "Consumer stopped"
  | recovered .. => "Recovered pending messages"
  | processed .. => "Processed message"
  | leftPending .. => "Message left pending"
  | reclamationSkipped .. => "Reclamation skipped"
  | claimedStuck .. => "Claimed stuck messages"
  | publishingStopped .. => "Publishing stopped"
  | backlogUnknown .. => "Failed to count pending messages"
  | livenessToggled .. => "Liveness toggled"
  | readinessToggled .. => "Readiness toggled"
  | publishTimeFailed .. => "Failed to publish time"

/-- The details of an event by name. -/
def details : Event → List (String × String)
  | groupPlaced stream group start => [("stream", stream), ("group", group), ("start", start.text)]
  | groupReady stream group => [("stream", stream), ("group", group)]
  | consumerStarting stream group consumer =>
    [("stream", stream), ("group", group), ("consumer", consumer)]
  | consumerCancelled consumer => [("consumer", consumer)]
  | consumerStopped consumer error => [("consumer", consumer), ("error", error.message)]
  | recovered consumer count => [("consumer", consumer), ("count", toString count)]
  | processed consumer id digest =>
    [("consumer", consumer), ("id", id.text), ("digest", digest)]
  | leftPending consumer id error =>
    [("consumer", consumer), ("id", id.text), ("error", error.message)]
  | reclamationSkipped consumer error => [("consumer", consumer), ("error", error.message)]
  | claimedStuck consumer count => [("consumer", consumer), ("count", toString count)]
  | publishingStopped published error =>
    [("published", toString published), ("error", error.message)]
  | backlogUnknown group error => [("group", group), ("error", error.message)]
  | livenessToggled live => [("liveness", toString live)]
  | readinessToggled ready => [("readiness", toString ready)]
  | publishTimeFailed error => [("error", error.message)]

end Event

end StreamQueue
