import StreamQueue.Event

/-!
# Settings and states of a consumer
-/

namespace StreamQueue

/-- The settings of a consumer. -/
structure ConsumerConfig where
  stream : String
  group : String
  /-- The bytes of work for an entry. -/
  size : Int
  /-- The identity to read under; one is drawn for every run if there is none. -/
  identity : Option String
  /-- How long a read for new entries waits; for as long as it takes if there is none. -/
  readBlock : Option Span
  /-- How often stuck entries are looked for. -/
  claimInterval : Span
  /-- How long an entry must have waited to count as stuck. -/
  claimMinIdle : Span
  /-- How many stuck entries are claimed at a time. -/
  claimBatch : Nat
  deriving DecidableEq, Repr

namespace Consumer

/-- The bytes of work for an entry when nothing else is said. -/
def defaultSize : Int := 1024 * 1024 * 1024

def defaultClaimInterval : Span := Span.ofSeconds 60
def defaultClaimMinIdle : Span := Span.ofSeconds 60
def defaultClaimBatch : Nat := 10

/-- The usual settings for a group of a stream. -/
def config (stream group : String) : ConsumerConfig :=
  ⟨stream, group, defaultSize, none, none, defaultClaimInterval, defaultClaimMinIdle,
    defaultClaimBatch⟩

/-- What a consumer shows of itself. -/
inductive State
  /-- It creates its group. -/
  | initializing
  /-- It looks for entries that it had not acknowledged. -/
  | recoveringPending
  /-- It waits for new entries. -/
  | listening
  /-- It looks for entries that are stuck with other consumers. -/
  | claiming
  /-- It does the work for an entry. -/
  | processing
  /-- Its run has ended. -/
  | stopped
  deriving DecidableEq, Repr

namespace State

/-- The states in the order in which a run first reaches them. -/
def all : List State :=
  [initializing, recoveringPending, listening, claiming, processing, stopped]

def text : State → String
  | initializing => "initializing"
  | recoveringPending => "recovering_pending"
  | listening => "listening"
  | claiming => "claiming"
  | processing => "processing"
  | stopped => "stopped"

end State

end Consumer

end StreamQueue
