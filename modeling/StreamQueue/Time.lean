/-!
# Time

Two clocks govern a queue and they are kept apart by type.

* The *monotonic* clock measures idle times, timeouts and intervals. Its
  readings are `Instant`s, its differences `Span`s; both count nanoseconds and
  are never negative. A difference is cut off at zero, so an instant in the
  future counts as not idle at all.
* The *wall* clock names entries and stamps messages. Its readings are
  `Timestamp`s; they may lie before the epoch and may go backward.
-/

namespace StreamQueue

/-- A length of time. -/
structure Span where
  nanos : Nat
  deriving DecidableEq, Repr, Inhabited

/-- A reading of the monotonic clock. -/
structure Instant where
  nanos : Nat
  deriving DecidableEq, Repr, Inhabited

/-- A reading of the wall clock, counted from the epoch. -/
structure Timestamp where
  nanos : Int
  deriving DecidableEq, Repr, Inhabited

namespace Span

def nanosPerMilli : Nat := 1000000
def nanosPerSecond : Nat := 1000000000

def zero : Span := ⟨0⟩
def ofMillis (n : Nat) : Span := ⟨n * nanosPerMilli⟩
def ofSeconds (n : Nat) : Span := ⟨n * nanosPerSecond⟩

/-- The whole milliseconds in a span. -/
def wholeMillis (d : Span) : Nat := d.nanos / nanosPerMilli

instance : LE Span := ⟨fun a b => a.nanos ≤ b.nanos⟩
instance : LT Span := ⟨fun a b => a.nanos < b.nanos⟩
instance (a b : Span) : Decidable (a ≤ b) := inferInstanceAs (Decidable (a.nanos ≤ b.nanos))
instance (a b : Span) : Decidable (a < b) := inferInstanceAs (Decidable (a.nanos < b.nanos))

theorem le_def {a b : Span} : a ≤ b ↔ a.nanos ≤ b.nanos := Iff.rfl
theorem lt_def {a b : Span} : a < b ↔ a.nanos < b.nanos := Iff.rfl

/-- The digits of `n` below one, `n` being counted in units of `10 ^ -places`,
without the zeros at the end. -/
def fractionDigits (places n : Nat) : List Char :=
  let digits := Nat.toDigits 10 n
  let padded := List.replicate (places - digits.length) '0' ++ digits
  (padded.reverse.dropWhile (· == '0')).reverse

/-- A count of nanoseconds in a unit of `10 ^ places` nanoseconds. -/
def inUnit (n places : Nat) (unit : String) : String :=
  let whole := toString (n / Nat.pow 10 places)
  match fractionDigits places (n % Nat.pow 10 places) with
  | [] => whole ++ unit
  | fraction => whole ++ "." ++ String.ofList fraction ++ unit

/-- A span in the largest unit of which it holds at least one, with as many
decimal places as it needs. -/
def text (d : Span) : String :=
  if nanosPerSecond ≤ d.nanos then inUnit d.nanos 9 "s"
  else if nanosPerMilli ≤ d.nanos then inUnit d.nanos 6 "ms"
  else if 1000 ≤ d.nanos then inUnit d.nanos 3 "µs"
  else inUnit d.nanos 0 "ns"

end Span

namespace Instant

instance : LE Instant := ⟨fun a b => a.nanos ≤ b.nanos⟩
instance : LT Instant := ⟨fun a b => a.nanos < b.nanos⟩
instance (a b : Instant) : Decidable (a ≤ b) := inferInstanceAs (Decidable (a.nanos ≤ b.nanos))
instance (a b : Instant) : Decidable (a < b) := inferInstanceAs (Decidable (a.nanos < b.nanos))

theorem le_def {a b : Instant} : a ≤ b ↔ a.nanos ≤ b.nanos := Iff.rfl
theorem lt_def {a b : Instant} : a < b ↔ a.nanos < b.nanos := Iff.rfl

/-- The instant at which a clock starts. -/
def zero : Instant := ⟨0⟩

/-- The instant a span later. -/
def after (t : Instant) (d : Span) : Instant := ⟨t.nanos + d.nanos⟩

/-- The span since an earlier instant, and zero since a later one. -/
def since (t earlier : Instant) : Span := ⟨t.nanos - earlier.nanos⟩

/-- The whole milliseconds since the clock started. -/
def wholeMillis (t : Instant) : Nat := t.nanos / Span.nanosPerMilli

end Instant

namespace Timestamp

/-- The whole milliseconds since the epoch, rounded down. -/
def wholeMillis (t : Timestamp) : Int := t.nanos.fdiv Span.nanosPerMilli

/-- A reading of whole milliseconds and nanoseconds on top. -/
def ofMillis (millis : Int) (nanos : Nat) : Timestamp := ⟨millis * Span.nanosPerMilli + nanos⟩

end Timestamp

end StreamQueue
