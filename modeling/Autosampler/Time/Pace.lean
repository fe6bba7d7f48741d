import Autosampler.Time.Span

/-!
# Pacing

How long to wait before the next attempt to reach the robot, and before the next look at its
status.

* `Backoff` — a bound on the attempts, with waits that double up to a cap;
* `Backoff.allows`, `Backoff.delay` — whether an attempt may be followed by another, and when;
* `Polling` — one interval while the changer rests and one while it works;
* `Polling.ofIdle` — the working interval derived from the resting one.
-/

namespace Autosampler

/-! ### Repeated attempts -/

/-- How often to try, and how long to wait in between. -/
structure Backoff where
  /-- The number of attempts allowed; the first one is always made. -/
  attempts : Nat
  /-- The wait after the first attempt. -/
  base : Span
  /-- The longest wait. -/
  cap : Span
deriving DecidableEq

namespace Backoff

/-- Five attempts, waits from 200 milliseconds up to five seconds. -/
def usual : Backoff := ⟨5, Span.ofMillis 200, Span.ofMillis 5000⟩

/-- The power `2 ^ attempt`, kept within a 32-bit word. -/
def doubling (attempt : Nat) : Nat :=
  if attempt < 32 then Nat.pow 2 attempt else Nat.pow 2 32 - 1

/-- Attempt number `attempt`, counted from zero, may be followed by another. -/
def allows (b : Backoff) (attempt : Nat) : Bool := attempt + 1 < b.attempts

/-- The wait after attempt number `attempt`: it doubles each time, up to the cap. -/
def delay (b : Backoff) (attempt : Nat) : Span :=
  (b.base.scale (doubling attempt)).shorter b.cap

end Backoff

/-! ### Status polling -/

/-- The waits between two looks at the robot's status. -/
structure Polling where
  /-- The wait while nothing runs. -/
  idle : Span
  /-- The wait while a program runs. -/
  busy : Span
deriving DecidableEq

namespace Polling

/-- The working interval is a quarter of the resting one, at least 50 milliseconds, and never
longer than the resting one. -/
def ofIdle (idle : Span) : Polling :=
  ⟨idle, (idle.quarter.longer (Span.ofMillis 50)).shorter idle⟩

/-- The wait after a look at a changer that is at work or not. -/
def interval (p : Polling) (working : Bool) : Span := if working then p.busy else p.idle

end Polling

end Autosampler
