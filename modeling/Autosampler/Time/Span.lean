/-!
# Spans of time

A span is a whole number of nanoseconds, at most `2 ^ 64 - 1` seconds and 999999999 nanoseconds.
Sums and products that would be longer stay at that longest span.

* `Span`, `Span.longest` — spans and their bound;
* `Span.ofParts`, `Span.ofMillis` — spans from seconds and nanoseconds, or from milliseconds;
* `Span.scale` — multiplication by a number, saturating;
* `Span.quarter`, `Span.shorter`, `Span.longer` — division by four, minimum and maximum.
-/

namespace Autosampler

/-- A length of time in nanoseconds. -/
structure Span where
  /-- The number of nanoseconds. -/
  nanos : Nat
deriving DecidableEq

namespace Span

/-- The number of nanoseconds in a second. -/
def perSecond : Nat := 1000000000

/-- The number of nanoseconds in the longest span. -/
def bound : Nat := (Nat.pow 2 64 - 1) * perSecond + 999999999

/-- The longest span. -/
def longest : Span := ⟨bound⟩

/-- A span of `n` nanoseconds, cut off at the longest. -/
def saturated (n : Nat) : Span := ⟨min n bound⟩

/-- A span from its whole seconds and the nanoseconds beyond them. -/
def ofParts (seconds nanos : Nat) : Span := saturated (seconds * perSecond + nanos)

/-- A span of whole milliseconds. -/
def ofMillis (ms : Nat) : Span := saturated (ms * 1000000)

/-- The whole seconds of a span. -/
def seconds (s : Span) : Nat := s.nanos / perSecond

/-- The nanoseconds of a span beyond its whole seconds. -/
def subsecond (s : Span) : Nat := s.nanos % perSecond

/-- One span after another, cut off at the longest. -/
def plus (a b : Span) : Span := saturated (a.nanos + b.nanos)

/-- A span taken `k` times, cut off at the longest. -/
def scale (s : Span) (k : Nat) : Span := saturated (s.nanos * k)

/-- A quarter of a span, rounded down to a nanosecond. -/
def quarter (s : Span) : Span := ⟨s.nanos / 4⟩

/-- The shorter of two spans. -/
def shorter (a b : Span) : Span := ⟨min a.nanos b.nanos⟩

/-- The longer of two spans. -/
def longer (a b : Span) : Span := ⟨max a.nanos b.nanos⟩

end Span

end Autosampler
