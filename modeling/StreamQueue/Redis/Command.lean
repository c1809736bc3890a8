import StreamQueue.Log.Call

/-!
# Commands of a Redis server

How the calls on a stream log are asked of a server. A read for new entries goes
over a connection of its own, so that nothing else has to wait behind it.
-/

namespace StreamQueue.Redis

/-- A command. -/
structure Command where
  /-- Whether the command goes over the connection for reads that wait. -/
  blocking : Bool
  words : List String
  deriving DecidableEq, Repr

namespace Command

/-- A command over the connection for commands. -/
def plain (words : List String) : Command := ⟨false, words⟩

/-- The words that say how long a read waits. The server takes zero for as long as it
takes; a read that does not wait says nothing, and any other says a millisecond at
least, in a word of 64 bits. -/
def blockWords : Option Span → List String
  | none => ["BLOCK", "0"]
  | some d =>
    if d = Span.zero then [] else ["BLOCK", toString (max d.wholeMillis 1 % UInt64.size)]

/-- A span as the server takes it, in a word of 64 bits. -/
def millisWord (d : Span) : String := toString (d.wholeMillis % UInt64.size)

/-- The first identifier to look at when all up to `after` are passed over. -/
def openStart (after : StreamId) : String := "(" ++ after.text

/-- The first identifier of a listing, which begins with the first there is when none
is passed over. -/
def listStart (after : StreamId) : String := if after.isZero then "-" else openStart after

/-- The command for a call. -/
def ofCall : LogCall → Command
  | .ping => plain ["PING"]
  | .append stream fields maxLen =>
    plain (["XADD", stream, "MAXLEN", "=", toString maxLen, "*"] ++
      fields.flatMap fun p => [p.1, p.2])
  | .createGroup stream group start =>
    plain ["XGROUP", "CREATE", stream, group, start.text, "MKSTREAM"]
  | .readNew stream group consumer count block =>
    ⟨true, ["XREADGROUP", "GROUP", group, consumer] ++ blockWords block ++
      ["COUNT", toString count, "STREAMS", stream, ">"]⟩
  | .readPending stream group consumer after count =>
    plain ["XREADGROUP", "GROUP", group, consumer, "COUNT", toString count, "STREAMS",
      stream, after.text]
  | .pendingEntries stream group minIdle after count =>
    plain ["XPENDING", stream, group, "IDLE", millisWord minIdle, listStart after, "+",
      toString count]
  | .pendingCount stream group => plain ["XPENDING", stream, group]
  | .claim stream group consumer minIdle ids =>
    plain (["XCLAIM", stream, group, consumer, millisWord minIdle] ++ ids.map StreamId.text)
  | .ack stream group ids => plain (["XACK", stream, group] ++ ids.map StreamId.text)
  | .len stream => plain ["XLEN", stream]
  | .rangeAfter stream after => plain ["XRANGE", stream, openStart after, "+"]
  | .groups stream => plain ["XINFO", "GROUPS", stream]

end Command

end StreamQueue.Redis
