import StreamQueue.Job

/-!
# Publishers

A publisher appends messages to a stream of bounded length and can tell how much
work a group has before it. It never waits for consumers, and every operation is
under a deadline.
-/

namespace StreamQueue

/-- The settings of a publisher. -/
structure PublisherConfig where
  stream : String
  /-- How many of the latest entries are kept. -/
  maxLen : Nat
  /-- How long an operation may take. -/
  timeout : Span
  deriving DecidableEq, Repr

namespace Publisher

/-- The field that holds the message of an entry. -/
def messageField : String := "msg"

/-- How many entries are kept when nothing else is said. -/
def defaultMaxLen : Nat := 1000

/-- How long an operation may take when nothing else is said. -/
def defaultTimeout : Span := Span.ofSeconds 5

/-- The usual settings for a stream. -/
def config (stream : String) : PublisherConfig := ⟨stream, defaultMaxLen, defaultTimeout⟩

/-- Do a job under the publisher's deadline. -/
def timed {α : Type} (p : PublisherConfig) (job : Job (Except QueueError α)) :
    Job (Except QueueError α) := do
  match ← Job.within p.timeout job with
  | some result => return result
  | none => return .error (.timeout p.timeout)

/-- Append a message. -/
def publish (p : PublisherConfig) (message : String) : Job (Except QueueError StreamId) :=
  timed p do
    let result ← Job.ask (.append p.stream [(messageField, message)] p.maxLen)
    return result.mapError .publish

/-- Append messages in order up to the first that fails, after `published` were appended. -/
def publishFrom (p : PublisherConfig) (published : Nat) :
    List String → Job (Except QueueError (List StreamId))
  | [] => return .ok []
  | message :: messages => do
    match ← publish p message with
    | .ok id => return (← publishFrom p (published + 1) messages).map (id :: ·)
    | .error e =>
      Job.tell (.publishingStopped published e)
      return .error e

/-- Append messages in order up to the first that fails. -/
def publishBatch (p : PublisherConfig) (messages : List String) :
    Job (Except QueueError (List StreamId)) := publishFrom p 0 messages

/-- Append copies of a message up to the first that fails, after `published` were appended. -/
def publishCopies (p : PublisherConfig) (message : String) (published : Nat) :
    Nat → Job (Except QueueError (List StreamId))
  | 0 => return .ok []
  | n + 1 => do
    match ← publish p message with
    | .ok id => return (← publishCopies p message (published + 1) n).map (id :: ·)
    | .error e =>
      Job.tell (.publishingStopped published e)
      return .error e

/-- Copies are published as a batch that repeats the message is, without the batch
being laid out first. -/
theorem publishCopies_eq_publishFrom (p : PublisherConfig) (message : String) (n : Nat) :
    ∀ published, publishCopies p message published n =
      publishFrom p published (List.replicate n message) := by
  induction n with
  | zero => intro published; rfl
  | succ n ih =>
    intro published
    simp only [publishCopies, List.replicate_succ, publishFrom, ih]

/-- What a refused look at a group means. -/
def groupError (group : String) : LogError → QueueError
  | .streamNotFound _ | .groupNotFound _ _ => .groupNotFound group
  | e => .log e

/-- The entries of the stream that were never delivered to a group. -/
def undelivered (p : PublisherConfig) (g : GroupInfo) : Job (Except QueueError Nat) := do
  if g.neverRead then
    return (← Job.ask (.len p.stream)).mapError .log
  else
    return ((← Job.ask (.rangeAfter p.stream g.lastDelivered)).mapError .log).map List.length

/-- How many entries a group has before it: those never delivered to it, and those
delivered that wait to be acknowledged. -/
def backlog (p : PublisherConfig) (group : String) : Job (Except QueueError Nat) :=
  timed p do
    match ← Job.ask (.groups p.stream) with
    | .error e => return .error (groupError group e)
    | .ok groups =>
      match groups.find? fun g => g.name == group with
      | none => return .error (.groupNotFound group)
      | some g =>
        match ← undelivered p g with
        | .error e => return .error e
        | .ok fresh =>
          match ← Job.ask (.pendingCount p.stream group) with
          | .error e => return .error (groupError group e)
          | .ok pending => return .ok (fresh + pending)

end Publisher

end StreamQueue
