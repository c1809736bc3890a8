import StreamQueue.Event
import StreamQueue.Log.Call

/-!
# The log in memory

Streams with their consumer groups, as a value. A stream keeps its latest entries
in order; a group keeps a cursor, the deliveries that wait to be acknowledged and
the names of its consumers. Each operation is one function, which takes the
readings of the clocks it looks at and gives back the new store.

An operation that is refused gives back no store, so nothing has changed.

The waiting of a read for new entries is not here: `deliver` is the attempt that
such a read makes, and `StreamQueue.Log.Reader` says when it is made again.
-/

namespace StreamQueue

/-- A delivery that waits to be acknowledged. -/
structure Delivery where
  /-- The consumer of the last delivery. -/
  owner : String
  /-- The instant of the last delivery. -/
  since : Instant
  /-- How often the entry was delivered. -/
  count : Nat
  deriving DecidableEq, Repr

/-- A consumer group. -/
structure Group where
  /-- The last entry that was delivered for the first time, or where the group began. -/
  cursor : StreamId
  /-- The deliveries that wait to be acknowledged. -/
  pending : Table StreamId Delivery
  /-- The consumers that the group has seen, each once. -/
  consumers : List String
  deriving DecidableEq, Repr

/-- A stream. -/
structure Stream where
  /-- The retained entries, oldest first. -/
  entries : List Entry
  /-- The identifier of the last entry ever appended. -/
  lastId : StreamId
  groups : Table String Group
  deriving DecidableEq, Repr

/-- A log in memory: its streams by name. -/
@[ext]
structure Store where
  streams : Table String Stream
  deriving DecidableEq, Repr

/-- The readings of both clocks at one moment. -/
structure Clock where
  /-- The monotonic clock. -/
  now : Instant
  /-- The wall clock. -/
  wall : Timestamp
  deriving DecidableEq, Repr

/-! ### Groups -/

namespace Group

/-- A group that begins after an identifier. -/
def startingAt (start : StreamId) : Group := ⟨start, Table.empty, []⟩

/-- The group after it has seen a consumer. -/
def see (g : Group) (consumer : String) : Group :=
  { g with consumers := g.consumers.insert consumer }

/-- The group after an entry is delivered to a consumer for the first time. -/
def deliver (g : Group) (now : Instant) (consumer : String) (e : Entry) : Group :=
  { g with cursor := e.id, pending := g.pending.insert e.id ⟨consumer, now, 1⟩ }

/-- What is listed of a delivery at an instant. -/
def listing (now : Instant) (id : StreamId) (d : Delivery) : PendingEntry :=
  ⟨id, d.owner, d.count, now.since d.since⟩

/-- The deliveries that have waited for at least `minIdle`, in order. -/
def idle (g : Group) (now : Instant) (minIdle : Span) : List PendingEntry :=
  (g.pending.pairs.map fun p => listing now p.1 p.2).filter fun p => minIdle ≤ p.idle

/-- The identifiers pending for a consumer, in order. -/
def ownedBy (g : Group) (consumer : String) : List StreamId :=
  (g.pending.pairs.filter fun p => p.2.owner == consumer).map (·.1)

/-- Remove a delivery; `true` if there was one. -/
def acknowledge (g : Group) (id : StreamId) : Bool × Group :=
  if g.pending.contains id then (true, { g with pending := g.pending.erase id }) else (false, g)

/-- Remove deliveries, and count those there were. -/
def acknowledgeAll : Group → List StreamId → Nat × Group
  | g, [] => (0, g)
  | g, id :: ids =>
    let (found, g) := g.acknowledge id
    let (n, g) := g.acknowledgeAll ids
    (n + found.toNat, g)

end Group

/-! ### Streams -/

namespace Stream

/-- A stream that nothing was appended to. -/
def empty : Stream := ⟨[], StreamId.zero, Table.empty⟩

/-- The identifier of the next entry: the millisecond of the wall clock, or the
successor of the last identifier while the clock has not moved past it. -/
def nextId (s : Stream) (wall : Timestamp) : StreamId :=
  let ms := UInt64.ofNat wall.wholeMillis.toNat
  if s.lastId.ms < ms then ⟨ms, 0⟩ else s.lastId.next

/-- The last `n` of a list. -/
def lastOf {α : Type} (n : Nat) (l : List α) : List α := l.drop (l.length - n)

/-- The stream after an entry is appended. -/
def push (s : Stream) (wall : Timestamp) (fields : Fields) (maxLen : Nat) : Stream :=
  let id := s.nextId wall
  { s with entries := lastOf maxLen (s.entries ++ [⟨id, fields⟩]), lastId := id }

/-- The first entry with an identifier, in a list with increasing identifiers: the
walk ends where the entry would have stood. -/
def findIn (id : StreamId) : List Entry → Option Entry
  | [] => none
  | e :: rest => if e.id < id then findIn id rest else if id < e.id then none else some e

/-- The retained entry with an identifier. -/
def find? (s : Stream) (id : StreamId) : Option Entry := findIn id s.entries

/-- The entry with an identifier, without fields if it is no longer retained. -/
def shown (s : Stream) (id : StreamId) : Entry := (s.find? id).getD (Entry.trimmed id)

/-- The retained entries after an identifier. -/
def after (s : Stream) (id : StreamId) : List Entry := s.entries.filter fun e => id < e.id

/-- One turn of a claim: an entry that is pending and has waited for long enough is
delivered to the consumer, or forgotten if it is no longer retained. -/
def claimOne (s : Stream) (now : Instant) (consumer : String) (minIdle : Span) (g : Group)
    (id : StreamId) : Option Entry × Group :=
  match g.pending.get? id with
  | none => (none, g)
  | some d =>
    if now.since d.since < minIdle then (none, g)
    else match s.find? id with
      | some e => (some e, { g with pending := g.pending.insert id ⟨consumer, now, d.count + 1⟩ })
      | none => (none, { g with pending := g.pending.erase id })

/-- The turns of a claim, one for each identifier in the order of the list. -/
def claimAll (s : Stream) (now : Instant) (consumer : String) (minIdle : Span) :
    Group → List StreamId → List Entry × Group
  | g, [] => ([], g)
  | g, id :: ids =>
    let (claimed, g) := s.claimOne now consumer minIdle g id
    let (rest, g) := s.claimAll now consumer minIdle g ids
    (claimed.toList ++ rest, g)

end Stream

/-! ### The store -/

namespace Store

/-- The log with no stream. -/
def empty : Store := ⟨Table.empty⟩

instance : Inhabited Store := ⟨empty⟩

/-- A stream, created empty if it is not there. -/
def streamOrNew (s : Store) (stream : String) : Stream := (s.streams.get? stream).getD Stream.empty

def putStream (s : Store) (stream : String) (st : Stream) : Store := ⟨s.streams.insert stream st⟩

/-- A group and its stream. -/
def group? (s : Store) (stream group : String) : Option (Stream × Group) := do
  let st ← s.streams.get? stream
  let g ← st.groups.get? group
  return (st, g)

/-- A group and its stream, or the refusal to work for a group that is not there. -/
def groupOr (s : Store) (stream group : String) : Except LogError (Stream × Group) :=
  match s.group? stream group with
  | some found => .ok found
  | none => .error (.groupNotFound stream group)

/-- The store with a group of a stream replaced. -/
def putGroup (s : Store) (stream : String) (st : Stream) (group : String) (g : Group) : Store :=
  s.putStream stream { st with groups := st.groups.insert group g }

/-- Whether there is a stream of a name. -/
def has (s : Store) (stream : String) : Bool := s.streams.contains stream

/-- The retained entries of a stream, none if there is no such stream. -/
def entries (s : Store) (stream : String) : List Entry :=
  match s.streams.get? stream with
  | some st => st.entries
  | none => []

/-- Append an entry. Of several values for a field the last stays. -/
def append (s : Store) (wall : Timestamp) (stream : String) (fields : List (String × String))
    (maxLen : Nat) : StreamId × Store :=
  let st := s.streamOrNew stream
  (st.nextId wall, s.putStream stream (st.push wall (Table.ofList fields) maxLen))

/-- Create a group, unless it is there. -/
def createGroup (s : Store) (stream group : String) (start : StreamId) : Except LogError Store :=
  let st := s.streamOrNew stream
  if st.groups.contains group then .error (.groupExists stream group)
  else .ok (s.putGroup stream st group (Group.startingAt start))

/-- Deliver the first `count` entries past the cursor to a consumer. -/
def deliver (s : Store) (now : Instant) (stream group consumer : String) (count : Nat) :
    Except LogError (List Entry × Store) := do
  let (st, g) ← s.groupOr stream group
  let delivered := (st.after g.cursor).take count
  let g := delivered.foldl (fun g e => g.deliver now consumer e) (g.see consumer)
  return (delivered, s.putGroup stream st group g)

/-- Show the first `count` entries after `after` that are pending for a consumer.

What is after an identifier is what there is from `StreamId.next` of it on, but for the largest one: nothing
is after that, while its `next` has gone round to the least. A listing that goes on from `next` differs from
this one there, and only there. -/
def replay (s : Store) (stream group consumer : String) (after : StreamId) (count : Nat) :
    Except LogError (List Entry × Store) := do
  let (st, g) ← s.groupOr stream group
  let ids := ((g.ownedBy consumer).filter fun id => after < id).take count
  return (ids.map st.shown, s.putGroup stream st group (g.see consumer))

/-- List the first `count` deliveries after `after` that have waited for `minIdle`. For the largest `after`
there are none; a listing that goes on from its `next` would begin again at the least identifier. -/
def pendingEntries (s : Store) (now : Instant) (stream group : String) (minIdle : Span)
    (after : StreamId) (count : Nat) : Except LogError (List PendingEntry) := do
  let (_, g) ← s.groupOr stream group
  return ((g.idle now minIdle).filter fun p => after < p.id).take count

/-- Count the deliveries that wait to be acknowledged. -/
def pendingCount (s : Store) (stream group : String) : Except LogError Nat := do
  let (_, g) ← s.groupOr stream group
  return g.pending.size

/-- Make those of the entries that have waited for `minIdle` the consumer's. -/
def claim (s : Store) (now : Instant) (stream group consumer : String) (minIdle : Span)
    (ids : List StreamId) : Except LogError (List Entry × Store) := do
  let (st, g) ← s.groupOr stream group
  let (claimed, g) := st.claimAll now consumer minIdle (g.see consumer) ids
  return (claimed, s.putGroup stream st group g)

/-- Acknowledge entries, and count those that were pending. -/
def ack (s : Store) (stream group : String) (ids : List StreamId) : Nat × Store :=
  match s.group? stream group with
  | none => (0, s)
  | some (st, g) =>
    let (n, g) := g.acknowledgeAll ids
    (n, s.putGroup stream st group g)

/-- Count the entries of a stream. -/
def len (s : Store) (stream : String) : Nat := (s.entries stream).length

/-- Show the entries after an identifier. -/
def rangeAfter (s : Store) (stream : String) (after : StreamId) : List Entry :=
  (s.entries stream).filter fun e => after < e.id

/-- List the groups of a stream by name. -/
def groups (s : Store) (stream : String) : Except LogError (List GroupInfo) :=
  match s.streams.get? stream with
  | none => .error (.streamNotFound stream)
  | some st => .ok (st.groups.pairs.map fun p =>
      ⟨p.1, p.2.consumers.length, p.2.pending.size, p.2.cursor⟩)

/-- The outcome of an operation that was refused or has given a new store. -/
def settle {α : Type} (s : Store) : Except LogError (α × Store) → Except LogError α × Store
  | .ok (a, s') => (.ok a, s')
  | .error e => (.error e, s)

/-- Carry out a call at one moment. A read for new entries makes one attempt. -/
def perform (s : Store) (clock : Clock) : (c : LogCall) → c.Result × Store
  | .ping => (.ok (), s)
  | .append stream fields maxLen =>
    let (id, s) := s.append clock.wall stream fields maxLen
    (.ok id, s)
  | .createGroup stream group start =>
    s.settle ((s.createGroup stream group start).map fun s => ((), s))
  | .readNew stream group consumer count _ =>
    s.settle (s.deliver clock.now stream group consumer count)
  | .readPending stream group consumer after count =>
    s.settle (s.replay stream group consumer after count)
  | .pendingEntries stream group minIdle after count =>
    (s.pendingEntries clock.now stream group minIdle after count, s)
  | .pendingCount stream group => (s.pendingCount stream group, s)
  | .claim stream group consumer minIdle ids =>
    s.settle (s.claim clock.now stream group consumer minIdle ids)
  | .ack stream group ids =>
    let (n, s) := s.ack stream group ids
    (.ok n, s)
  | .len stream => (.ok (s.len stream), s)
  | .rangeAfter stream after => (.ok (s.rangeAfter stream after), s)
  | .groups stream => (s.groups stream, s)

end Store

/-- What a log reports about a call it has carried out. -/
def LogCall.events : (c : LogCall) → c.Result → List Event
  | .createGroup stream group start, .ok () => [.groupPlaced stream group start]
  | _, _ => []

end StreamQueue
