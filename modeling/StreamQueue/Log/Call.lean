import StreamQueue.Entry
import StreamQueue.Log.Error

/-!
# Calls on a stream log

The twelve operations that a stream log offers, as data: a call can be recorded,
delayed, refused or carried out by one log or another. What an operation answers
is a type that depends on the call.
-/

namespace StreamQueue

/-- A call on a stream log. -/
inductive LogCall
  /-- See whether the log can be reached. -/
  | ping
  /-- Append an entry, then drop the oldest entries until at most `maxLen` remain.
  The stream is created if need be. -/
  | append (stream : String) (fields : List (String × String)) (maxLen : Nat)
  /-- Create a group whose cursor is `start`, and the stream if need be. -/
  | createGroup (stream group : String) (start : StreamId)
  /-- Deliver up to `count` entries past the group's cursor to a consumer. While
  there is none, wait: for `block` at most, or for as long as it takes. -/
  | readNew (stream group consumer : String) (count : Nat) (block : Option Span)
  /-- Show up to `count` entries after `after` that are pending for a consumer. -/
  | readPending (stream group consumer : String) (after : StreamId) (count : Nat)
  /-- List up to `count` deliveries after `after` that have waited for `minIdle`. -/
  | pendingEntries (stream group : String) (minIdle : Span) (after : StreamId) (count : Nat)
  /-- Count the deliveries of a group that wait to be acknowledged. -/
  | pendingCount (stream group : String)
  /-- Make those of the entries that have waited for `minIdle` the consumer's. -/
  | claim (stream group consumer : String) (minIdle : Span) (ids : List StreamId)
  /-- Acknowledge entries. -/
  | ack (stream group : String) (ids : List StreamId)
  /-- Count the entries of a stream. -/
  | len (stream : String)
  /-- Show the entries after an identifier. -/
  | rangeAfter (stream : String) (after : StreamId)
  /-- List the groups of a stream. -/
  | groups (stream : String)
  deriving DecidableEq, Repr

namespace LogCall

/-- What a call answers when it is not refused. -/
abbrev Answer : LogCall → Type
  | ping => Unit
  | append .. => StreamId
  | createGroup .. => Unit
  | readNew .. => List Entry
  | readPending .. => List Entry
  | pendingEntries .. => List PendingEntry
  | pendingCount .. => Nat
  | claim .. => List Entry
  | ack .. => Nat
  | len .. => Nat
  | rangeAfter .. => List Entry
  | groups .. => List GroupInfo

/-- What comes back from a call. -/
abbrev Result (c : LogCall) : Type := Except LogError c.Answer

end LogCall

end StreamQueue
