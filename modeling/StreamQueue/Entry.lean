import StreamQueue.StreamId
import StreamQueue.Time

/-!
# Entries

What a stream holds: an identifier and named text fields. An entry never changes
once it is appended. An entry that was trimmed from its stream while a consumer
still had it to acknowledge is shown with no fields.
-/

namespace StreamQueue

/-- The fields of an entry. -/
abbrev Fields := Table String String

/-- An entry of a stream. -/
@[ext]
structure Entry where
  id : StreamId
  fields : Fields
  deriving DecidableEq, Repr, Inhabited

namespace Entry

/-- The value of a field. -/
def field? (e : Entry) (name : String) : Option String := e.fields.get? name

/-- What is shown of an entry that is no longer in its stream. -/
def trimmed (id : StreamId) : Entry := ⟨id, Table.empty⟩

end Entry

/-- A delivery that waits to be acknowledged, as it is listed. -/
structure PendingEntry where
  id : StreamId
  /-- The consumer that the entry was last delivered to. -/
  consumer : String
  /-- How often the entry was delivered. -/
  deliveries : Nat
  /-- The time since the last delivery. -/
  idle : Span
  deriving DecidableEq, Repr

/-- A consumer group, as it is listed. -/
structure GroupInfo where
  name : String
  /-- How many consumers the group has seen. -/
  consumers : Nat
  /-- How many deliveries wait to be acknowledged. -/
  pending : Nat
  /-- The group's cursor. -/
  lastDelivered : StreamId
  deriving DecidableEq, Repr

/-- Whether nothing was ever delivered to the group. -/
def GroupInfo.neverRead (g : GroupInfo) : Bool := g.lastDelivered.isZero

end StreamQueue
