/-
# Clock

A clock that can be stopped. Each stop is undone by a guard, which puts back what the clock showed
before; readings have whole seconds.
-/

import Rowsmith.Value.Instant

namespace Rowsmith

/-- A clock: the instant it is stopped at, or none while it runs. -/
structure Clock where
  stopped : Option Instant := none
  deriving DecidableEq

/-- What undoes a stop: the state of the clock before it. -/
structure ClockGuard where
  previous : Option Instant
  deriving DecidableEq

namespace Clock

/-- A clock that runs. -/
def running : Clock where

/-- What the clock shows, where `live` is the real time. -/
def now (c : Clock) (live : Instant) : Instant :=
  (c.stopped.getD live).truncated

/-- Stops the clock at `t`. -/
def freeze (c : Clock) (t : Instant) : Clock × ClockGuard :=
  (⟨some t⟩, ⟨c.stopped⟩)

/-- Stops the clock at what it shows, where `live` is the real time. -/
def freezeNow (c : Clock) (live : Instant) : Clock × ClockGuard :=
  c.freeze (c.now live)

/-- Drops a guard. -/
def release (_ : Clock) (g : ClockGuard) : Clock :=
  ⟨g.previous⟩

end Clock

/-- What a guard shows: what the clock `c` shows, whichever guard is asked. -/
def ClockGuard.time (_ : ClockGuard) (c : Clock) (live : Instant) : Instant :=
  c.now live

end Rowsmith
