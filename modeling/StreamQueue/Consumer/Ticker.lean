import StreamQueue.Time

/-!
# Tickers

A ticker comes due at regular instants. When it is handled late, by more than
`Ticker.tolerance`, the instants are counted anew from when it is handled, so that
missed ticks are not made up for.
-/

namespace StreamQueue

/-- A ticker, by the instant at which it next comes due. -/
structure Ticker where
  due : Instant
  deriving DecidableEq, Repr

namespace Ticker

/-- How late a tick may be handled without moving the later ones. -/
def tolerance : Span := Span.ofMillis 5

/-- A ticker that first comes due one interval from now. -/
def start (now : Instant) (interval : Span) : Ticker := ⟨now.after interval⟩

def isDue (t : Ticker) (now : Instant) : Bool := t.due ≤ now

/-- The ticker after its tick is handled. -/
def handle (t : Ticker) (now : Instant) (interval : Span) : Ticker :=
  if t.due.after tolerance < now then ⟨now.after interval⟩ else ⟨t.due.after interval⟩

end Ticker

end StreamQueue
