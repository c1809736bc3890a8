import StreamQueue.Log.Feed
import StreamQueue.Store

/-!
# Reads that wait

A read for new entries subscribes to the notices of appends, makes an attempt to
deliver, and waits when there was nothing: for a notice that concerns its stream,
after which it begins again, or for its deadline, at which it ends with no entry.

The subscription comes before the attempt, so no append falls between the two.
Notices are looked at before the deadline.
-/

namespace StreamQueue

/-- What a read asks for. -/
structure ReadRequest where
  stream : String
  group : String
  consumer : String
  count : Nat
  /-- The instant at which to give up, if there is one. -/
  deadline : Option Instant
  deriving DecidableEq, Repr

/-- How far a look at a read has brought it. -/
inductive ReadStep
  /-- It has ended. -/
  | ended (result : Except LogError (List Entry))
  /-- It waits for a notice that its subscription holds. -/
  | waiting (receiver : Receiver)
  deriving Repr

namespace ReadRequest

/-- Whether the instant to give up has come. -/
def expired (r : ReadRequest) (now : Instant) : Bool :=
  match r.deadline with
  | some deadline => deadline ≤ now
  | none => false

/-- Wait with a subscription that holds nothing of interest, unless it is too late. -/
def rest (r : ReadRequest) (now : Instant) (receiver : Receiver) : ReadStep :=
  if r.expired now then .ended (.ok []) else .waiting receiver

/-- Subscribe and make an attempt. -/
def attempt (r : ReadRequest) (now : Instant) (feed : Feed) (s : Store) : ReadStep × Store :=
  match s.deliver now r.stream r.group r.consumer r.count with
  | .error e => (.ended (.error e), s)
  | .ok ([], s) => (r.rest now feed.subscribe, s)
  | .ok (es, s) => (.ended (.ok es), s)

/-- Look again at a read that waits. -/
def resume (r : ReadRequest) (now : Instant) (feed : Feed) (receiver : Receiver) (s : Store) :
    ReadStep × Store :=
  if feed.wakes receiver r.stream then r.attempt now feed s
  else (r.rest now feed.subscribe, s)

end ReadRequest

end StreamQueue
