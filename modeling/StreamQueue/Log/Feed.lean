import StreamQueue.StreamId

/-!
# Notices of appends

Every append is announced to whoever subscribed before it. A subscriber reads the
notices in order at its own pace; one that falls more than `Feed.capacity` behind
loses the oldest, and is told how many it has lost before it reads on.
-/

namespace StreamQueue

/-- The announcement of an append. -/
structure AppendNotice where
  stream : String
  id : StreamId
  deriving DecidableEq, Repr, Inhabited

/-- All notices sent, in order. -/
structure Feed where
  sent : Array AppendNotice
  deriving Repr, Inhabited

/-- A subscription: how many of the notices are behind it. -/
structure Receiver where
  behind : Nat
  deriving DecidableEq, Repr, Inhabited

/-- What a subscriber finds. -/
inductive Received
  | notice (n : AppendNotice)
  /-- This many notices were lost. -/
  | lagged (missed : Nat)
  deriving DecidableEq, Repr

namespace Feed

/-- How many unread notices are kept for a subscriber. -/
def capacity : Nat := 1024

def empty : Feed := ⟨#[]⟩

def send (f : Feed) (n : AppendNotice) : Feed := ⟨f.sent.push n⟩

/-- A subscription to the notices from now on. -/
def subscribe (f : Feed) : Receiver := ⟨f.sent.size⟩

/-- How many notices a subscriber has lost. -/
def missed (f : Feed) (r : Receiver) : Nat := f.sent.size - capacity - r.behind

/-- Take the next notice, or learn how many were lost. -/
def receive? (f : Feed) (r : Receiver) : Option (Received × Receiver) :=
  if 0 < f.missed r then some (.lagged (f.missed r), ⟨r.behind + f.missed r⟩)
  else (f.sent[r.behind]?).map fun n => (.notice n, ⟨r.behind + 1⟩)

/-- The notices that a subscriber would still find. -/
def unread (f : Feed) (r : Receiver) : List AppendNotice := f.sent.toList.drop r.behind

/-- Whether a subscriber who waits for appends to a stream is woken: by a notice
for the stream, or by having lost notices among which one may have been. -/
def wakes (f : Feed) (r : Receiver) (stream : String) : Bool :=
  0 < f.missed r || (f.unread r).any fun n => n.stream == stream

/-- Take everything there is. -/
def takeAll (f : Feed) (r : Receiver) : List Received × Receiver :=
  let lost := if 0 < f.missed r then [.lagged (f.missed r)] else []
  (lost ++ (f.unread ⟨r.behind + f.missed r⟩).map .notice, f.subscribe)

end Feed

end StreamQueue
