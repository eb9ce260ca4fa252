/-
The age cutoff: which resources are old enough to be deleted. `Cutoff.ofMaxAge` measures an age back
from a given instant; an age of zero takes everything, and an age that merely rounds to zero does
not.
-/
import CloudSweep.Binary64.Basic
import CloudSweep.Settings.Error
import CloudSweep.Time.Instant
import CloudSweep.Time.Span

namespace CloudSweep

/-- Which resources are old enough. -/
inductive Cutoff
  /-- All of them, whatever their age. -/
  | clearAll
  /-- Those created strictly before the instant. -/
  | before (instant : Instant)
  deriving DecidableEq

namespace Cutoff

/-- The longest span as a double. It has no double of its own, and the nearest one is a millisecond
longer. -/
def nearLongest : Nat := Nat.pow 2 63

/-- The hours in whole milliseconds, rounded; none if there are more than the longest span has, as
doubles compare. What compares as the longest span is cut off there. -/
def wholeMillis? (hours : Binary64) : Option Nat :=
  match (hours.scale 3600000).roundNat? with
  | none => none
  | some millis => if nearLongest < millis then none else some (min millis Span.longest)

/-- The span of days and hours, unless one of them is too long or both are together. -/
def age? (days : Nat) (hours : Binary64) : Option Span := do
  let millis ← wholeMillis? hours
  let whole ← Span.ofDays? days
  let part ← Span.ofMillis? millis
  whole.add? part

/-- The cutoff for an age of days and hours, measured back from `now`. An age that is no span, or one
that leaves the range of instants, is refused. -/
def ofMaxAge (now : Instant) (days : Nat) (hours : Binary64) : Except SettingsError Cutoff :=
  if !hours.isFinite ∨ hours.isNegative then .error (.invalidHours hours)
  else if days = 0 ∧ hours.isZero then .ok .clearAll
  else
    match (age? days hours).bind fun age => now.minusMillis? age.millis with
    | some instant => .ok (.before instant)
    | none => .error (.ageOutOfRange days hours)

/-- Whether everything is taken. -/
def isClearAll : Cutoff → Bool
  | .clearAll => true
  | .before _ => false

/-- Whether a resource created at this instant is old enough. -/
def includes : Cutoff → Instant → Bool
  | .clearAll, _ => true
  | .before instant, created => decide (created.Before instant)

/-- The cutoff in words, for messages. -/
def describe : Cutoff → String
  | .clearAll => "ClearAll"
  | .before instant => "Before(" ++ instant.toText ++ ")"

end Cutoff
end CloudSweep
