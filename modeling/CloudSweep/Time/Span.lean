/-
Spans of time in whole milliseconds, none of them negative. A span has an end: what would be longer
than the longest one is no span, and an operation that would lead there has no result.
-/
namespace CloudSweep

/-- The milliseconds of the longest span. -/
def Span.longest : Nat := Nat.pow 2 63 - 1

/-- A span of time. -/
structure Span where
  millis : Nat
  fits : millis ≤ Span.longest
  deriving DecidableEq

namespace Span

/-- The span of so many milliseconds. -/
def ofMillis? (millis : Nat) : Option Span :=
  if fits : millis ≤ longest then some { millis, fits } else none

/-- The span of so many days. -/
def ofDays? (days : Nat) : Option Span := ofMillis? (days * 86400000)

/-- Both spans, one after the other. -/
def add? (a b : Span) : Option Span := ofMillis? (a.millis + b.millis)

theorem ofMillis?_eq_some_iff {millis : Nat} {span : Span} :
    ofMillis? millis = some span ↔ span.millis = millis := by
  obtain ⟨m, fits⟩ := span
  unfold ofMillis?
  split
  · simp [eq_comm]
  · rename_i long
    exact iff_of_false nofun fun same => long (same ▸ fits)

end Span
end CloudSweep
