/-
# Instants

Points in time without a zone, to the nanosecond. A second may hold a leap second: its nanoseconds
count on past one thousand million.
-/

namespace Rowsmith

/-- Nanoseconds of a second. -/
def nanosPerSecond : Nat :=
  1000000000

theorem two_nanosPerSecond_pos : 0 < 2 * nanosPerSecond := by
  decide

/-- A point in time: seconds since the start of 1970, rounded down, and nanoseconds. -/
structure Instant where
  seconds : Int
  nanos : Nat
  /-- The years from -262143 to 262142. -/
  inCalendar : -8334601228800 ≤ seconds ∧ seconds ≤ 8210266876799
  /-- The nanoseconds of a second and of a leap second after it. -/
  inSecond : nanos < 2 * nanosPerSecond
  deriving DecidableEq

namespace Instant

/-- The instant with the given parts, if there is one. -/
def of? (seconds : Int) (nanos : Nat) : Option Instant :=
  if h : -8334601228800 ≤ seconds ∧ seconds ≤ 8210266876799 then
    if h' : nanos < 2 * nanosPerSecond then some ⟨seconds, nanos, h, h'⟩ else none
  else none

/-- The instant without its part of a second. -/
def truncated (t : Instant) : Instant :=
  ⟨t.seconds, 0, t.inCalendar, two_nanosPerSecond_pos⟩

end Instant

end Rowsmith
