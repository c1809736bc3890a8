import StreamQueue.Time

/-!
# Dates

A reading of the wall clock as text: the date in the Gregorian calendar and the
time of day at zero offset, in the form of RFC 3339. The fraction of the second
has as many digits as it needs out of none, three, six or nine. A year outside
the four digits of the form is written with its sign.
-/

namespace StreamQueue

/-- A day of the Gregorian calendar. -/
structure Date where
  year : Int
  month : Nat
  day : Nat
  deriving DecidableEq, Repr

namespace Date

/-- The day `days` days after the first of January 1970.

The count is first moved to begin on the first of March of the year zero, so
that the leap day is the last day of a year, and is then cut into periods of four
hundred years, which all have the same length. -/
def ofDays (days : Int) : Date :=
  let z := days + 719468
  let era := z.fdiv 146097
  let doe := (z - era * 146097).toNat
  let yoe := (doe - doe / 1460 + doe / 36524 - doe / 146096) / 365
  let doy := doe - (365 * yoe + yoe / 4 - yoe / 100)
  let mp := (5 * doy + 2) / 153
  let day := doy - (153 * mp + 2) / 5 + 1
  let month := if mp < 10 then mp + 3 else mp - 9
  let year := (yoe : Int) + era * 400 + (if month ≤ 2 then 1 else 0)
  ⟨year, month, day⟩

end Date

/-- A number with at least `width` digits. -/
def padded (width n : Nat) : String :=
  let digits := toString n
  String.ofList (List.replicate (width - digits.length) '0') ++ digits

/-- A year of four digits as it is, any other with its sign. -/
def yearText (y : Int) : String :=
  if 0 ≤ y && y ≤ 9999 then padded 4 y.toNat
  else if 0 ≤ y then "+" ++ padded 4 y.toNat
  else "-" ++ padded 4 y.natAbs

/-- The fraction of a second of `nanos` nanoseconds. -/
def secondFraction (nanos : Nat) : String :=
  if nanos = 0 then ""
  else if nanos % 1000000 = 0 then "." ++ padded 3 (nanos / 1000000)
  else if nanos % 1000 = 0 then "." ++ padded 6 (nanos / 1000)
  else "." ++ padded 9 nanos

/-- The date and time of a reading of the wall clock, at zero offset. -/
def Timestamp.rfc3339 (t : Timestamp) : String :=
  let seconds := t.nanos.fdiv Span.nanosPerSecond
  let nanos := (t.nanos - seconds * Span.nanosPerSecond).toNat
  let days := seconds.fdiv 86400
  let ofDay := (seconds - days * 86400).toNat
  let date := Date.ofDays days
  yearText date.year ++ "-" ++ padded 2 date.month ++ "-" ++ padded 2 date.day ++ "T" ++
    padded 2 (ofDay / 3600) ++ ":" ++ padded 2 (ofDay / 60 % 60) ++ ":" ++ padded 2 (ofDay % 60) ++
    secondFraction nanos ++ "+00:00"

end StreamQueue
