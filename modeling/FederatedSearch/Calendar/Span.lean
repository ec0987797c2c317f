import FederatedSearch.Number.Literal

/-!
# Spans of time

A span is a whole number of nanoseconds, positive or negative. The spans that can be asked for are
those of at most 2^63 - 1 milliseconds; a longer one is refused by the functions that make spans.
-/

namespace FederatedSearch.Calendar

/-- The nanoseconds of a second. -/
def nanosPerSecond : Nat := 1000000000

/-- The longest span in milliseconds. -/
def maxMillis : Nat := Number.maxWord 63

/-- **A span of time**, in nanoseconds. -/
structure Span where
  nanos : Int
  deriving DecidableEq, Repr

namespace Span

/-- The span of a number of seconds, unless it is too long. -/
def ofSeconds? (n : Int) : Option Span :=
  if n.natAbs ≤ maxMillis / 1000 then some ⟨n * nanosPerSecond⟩ else none

/-- The span of a number of milliseconds, unless it is too long. -/
def ofMillis? (n : Int) : Option Span :=
  if n.natAbs ≤ maxMillis then some ⟨n * 1000000⟩ else none

/-- The span in the other direction. -/
def neg (d : Span) : Span := ⟨-d.nanos⟩

/-- The whole seconds of a span, toward zero. -/
def wholeSeconds (d : Span) : Int := d.nanos.tdiv nanosPerSecond

/-- The nanoseconds of a span beyond its whole seconds, of the same sign. -/
def subsecondNanos (d : Span) : Int := d.nanos.tmod nanosPerSecond

/-- The span is longer than another one. -/
def longerThan (d e : Span) : Bool := e.nanos < d.nanos

end Span

end FederatedSearch.Calendar
