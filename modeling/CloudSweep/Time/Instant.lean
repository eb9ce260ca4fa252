/-
Instants of universal time, in seconds and nanoseconds. A leap second carries the second before it
and 1000000000 nanoseconds or more. Instants are ordered by their seconds, then by their
nanoseconds, and lie in the years -262143 to 262142.
-/
import CloudSweep.Time.Civil

namespace CloudSweep

/-- An instant: seconds since the start of 1970 and the nanoseconds after them. -/
structure Instant where
  seconds : Int
  nanos : Nat
  deriving DecidableEq

namespace Instant

/-- Strictly earlier. -/
def Before (a b : Instant) : Prop :=
  a.seconds < b.seconds ∨ (a.seconds = b.seconds ∧ a.nanos < b.nanos)

instance (a b : Instant) : Decidable (a.Before b) := by
  unfold Before; infer_instance

/-- The years of the earliest and of the latest instant. -/
def firstYear : Int := -262143

/-- The year of the latest instant. -/
def lastYear : Int := 262142

/-- The second that starts the first year. -/
def firstSecond : Int := ({ year := firstYear, month := 1, day := 1 } : Date).dayNumber * 86400

/-- The second that starts the year after the last. -/
def endSecond : Int := ({ year := lastYear + 1, month := 1, day := 1 } : Date).dayNumber * 86400

/-- Whether the instant lies in the range of instants. -/
def isRepresentable (t : Instant) : Bool := firstSecond ≤ t.seconds && t.seconds < endSecond

/-- The instant so many nanoseconds after the start of 1970, no leap second. -/
def ofNanos (total : Int) : Instant where
  seconds := total / 1000000000
  nanos := (total % 1000000000).toNat

/-- Nanoseconds since the start of 1970. A leap second counts as the second that follows. -/
def toNanos (t : Instant) : Int := t.seconds * 1000000000 + t.nanos

/-- The instant so many milliseconds earlier. Less than a second taken from a leap second does not
leave the second it carries. `none` when the result is out of range. -/
def minusMillis? (t : Instant) (millis : Nat) : Option Instant :=
  let earlier :=
    if 1000000000 ≤ t.nanos ∧ millis < 1000 then
      { t with nanos := t.nanos - millis * 1000000 }
    else ofNanos (t.toNanos - millis * 1000000)
  if earlier.isRepresentable then some earlier else none

/-- A number in decimal digits, with leading zeros up to the width. -/
def padded (width n : Nat) : String :=
  let ds := Nat.toDigits 10 n
  String.ofList (List.replicate (width - ds.length) '0' ++ ds)

/-- A year: four digits from 0 to 9999, else with its sign and at least four digits. -/
def yearText (year : Int) : String :=
  if 0 ≤ year ∧ year ≤ 9999 then padded 4 year.toNat
  else if year < 0 then "-" ++ padded 4 year.natAbs
  else "+" ++ padded 4 year.toNat

/-- The fraction of a second with three, six or nine digits, as few as hold it. -/
def fractionText (nanos : Nat) : String :=
  if nanos = 0 then ""
  else if nanos % 1000000 = 0 then "." ++ padded 3 (nanos / 1000000)
  else if nanos % 1000 = 0 then "." ++ padded 6 (nanos / 1000)
  else "." ++ padded 9 nanos

/-- Date and time of day, such as `2024-01-01T00:00:00Z`. A leap second is written as second 60. -/
def toText (t : Instant) : String :=
  let date := Date.ofDayNumber (t.seconds / 86400)
  let ofDay := (t.seconds % 86400).toNat
  let leap := t.nanos / 1000000000
  yearText date.year ++ "-" ++ padded 2 date.month ++ "-" ++ padded 2 date.day ++ "T" ++
    padded 2 (ofDay / 3600) ++ ":" ++ padded 2 (ofDay / 60 % 60) ++ ":" ++
    padded 2 (ofDay % 60 + leap) ++ fractionText (t.nanos - leap * 1000000000) ++ "Z"

end Instant
end CloudSweep
