/-
# Stored timestamps

A timestamp is stored as the number of microseconds from the start of 2000 to it. The number
fits in 64 bits for every instant of the calendar, and stands for the instant without the part
of a microsecond by which it is farther out. A leap second is counted like the second that
follows it, so its bytes stand for an instant of that second; where the calendar ends there is
no such second, and the bytes stand for nothing. The clock shows whole seconds and no leap
seconds, so what it shows always comes back.
-/

import Rowsmith.Clock
import Rowsmith.Proofs.Value.Decoding

namespace Rowsmith

namespace Instant

variable {t : Instant}

/-- There are `micros` whole microseconds from the start of 2000 to the instant, and less than
one more. Before 2000 the number is negative. -/
structure Counts (t : Instant) (micros : Int) : Prop where
  near : (1000 * micros - t.elapsed).natAbs < 1000
  toward : (1000 * micros).natAbs ≤ t.elapsed.natAbs

theorem counts_microseconds (t : Instant) : t.Counts t.microseconds := by
  rcases t.microseconds_cases with ⟨hpos, hmicros⟩ | ⟨hneg, hmicros⟩
  · exact ⟨by omega, by omega⟩
  · exact ⟨by omega, by omega⟩

theorem not_isLeap_truncated (t : Instant) : ¬t.truncated.IsLeap := by
  show ¬nanosPerSecond ≤ 0
  decide

end Instant

namespace Value

/-- An instant of whole seconds outside leap seconds comes back from its bytes. -/
theorem decode?_truncated (t : Instant) :
    SqlType.timestamp.decode?
        (bigEndian 8 (t.truncated.microseconds % 0x10000000000000000).toNat) =
      some (timestamp t.truncated) := by
  rw [decode?_microseconds]
  cases hread : Instant.ofMicroseconds? t.truncated.microseconds with
  | none =>
      have hlost := Instant.ofMicroseconds?_microseconds_eq_none_iff.mp hread
      exact absurd hlost.1 t.not_isLeap_truncated
  | some t' =>
      have hrounds := Instant.roundsTo_of_ofMicroseconds? hread
      have hwhole : 1000 ∣ t.truncated.nanos := Nat.dvd_zero 1000
      rw [hrounds.eq t.not_isLeap_truncated hwhole, Option.map_some]

/-- **Every timestamp is stored.** The number of its microseconds fits in 64 bits, so both
bindings append its eight bytes to any buffer. Reading them gives the instant rounded to a
whole microsecond toward the start of 2000, unless it lies in a leap second at the end of the
calendar. What the clock shows while it is stopped at the instant comes back as it is. -/
theorem timestamps_stored (t : Instant) :
    (∃ micros bytes, t.Counts micros ∧
      (-0x8000000000000000 ≤ micros ∧ micros < 0x8000000000000000) ∧
      bytes.length = 8 ∧ ofTwosComplement bytes = micros ∧
      (∀ buffer, ((timestamp t).bind .timestamp).run buffer = (.ok (), buffer ++ bytes) ∧
        ((timestamp t).bindPlain .timestamp).run buffer = (.ok (), buffer ++ bytes)) ∧
      (t.IsLeap ∧ t.IsLast ∧ SqlType.timestamp.decode? bytes = none ∨
        ¬(t.IsLeap ∧ t.IsLast) ∧
          ∃ t', SqlType.timestamp.decode? bytes = some (timestamp t') ∧ t.RoundsTo t')) ∧
    ∀ (clock : Clock) (live : Instant), ∃ bytes,
      ((timestamp ((clock.freeze t).1.now live)).bind .timestamp).run [] = (.ok (), bytes) ∧
      SqlType.timestamp.decode? bytes = some (timestamp ((clock.freeze t).1.now live)) := by
  refine ⟨⟨t.microseconds, _, t.counts_microseconds, t.microseconds_mem_range,
    length_bigEndian 8 _, ofTwosComplement_microseconds t, fun buffer => ?_, ?_⟩,
    fun clock live => ?_⟩
  · have hbind : (timestamp t).bind .timestamp = (timestamp t).write := rfl
    have hplain : (timestamp t).bindPlain .timestamp = (timestamp t).write := rfl
    rw [hbind, hplain, write_timestamp]
    exact ⟨rfl, rfl⟩
  · rw [decode?_microseconds]
    cases hread : Instant.ofMicroseconds? t.microseconds with
    | none =>
        obtain ⟨hleap, hlast⟩ := Instant.ofMicroseconds?_microseconds_eq_none_iff.mp hread
        exact .inl ⟨hleap, hlast, rfl⟩
    | some t' =>
        refine .inr ⟨fun hlost => ?_, t', rfl, Instant.roundsTo_of_ofMicroseconds? hread⟩
        rw [Instant.ofMicroseconds?_microseconds_eq_none_iff.mpr hlost] at hread
        cases hread
  · have hshown : (clock.freeze t).1.now live = t.truncated := rfl
    have hbind : (timestamp t.truncated).bind .timestamp = (timestamp t.truncated).write := rfl
    rw [hshown, hbind, write_timestamp]
    exact ⟨_, rfl, decode?_truncated t⟩

/-- The middle of the leap second at the end of the calendar. -/
def lastLeapSecond : Instant :=
  ⟨8210266876799, 1500000000, by decide, leapSecond2016.inSecond⟩

/-- The bytes of a leap second at the end of the calendar stand for no instant, and those of
an earlier one for an instant of the next second. -/
theorem leapSeconds_not_read_back :
    (¬∃ bytes t',
      ((timestamp lastLeapSecond).bind .timestamp).run [] = (.ok (), bytes) ∧
      SqlType.timestamp.decode? bytes = some (timestamp t')) ∧
    ¬∃ bytes,
      ((timestamp leapSecond2016).bind .timestamp).run [] = (.ok (), bytes) ∧
      SqlType.timestamp.decode? bytes = some (timestamp leapSecond2016) := by
  constructor
  · rintro ⟨bytes, t', hbytes, hread⟩
    obtain rfl : bigEndian 8 8209320192000500000 = bytes := congrArg Prod.snd hbytes
    have hnone : SqlType.timestamp.decode? (bigEndian 8 8209320192000500000) = none := by
      decide +kernel
    rw [hnone] at hread
    cases hread
  · rintro ⟨bytes, hbytes, hread⟩
    obtain rfl : bigEndian 8 536544000500000 = bytes := congrArg Prod.snd hbytes
    have hnext : SqlType.timestamp.decode? (bigEndian 8 536544000500000) =
        some (timestamp ⟨1483228800, 500000000, by decide, by decide⟩) := by
      decide +kernel
    rw [hnext] at hread
    exact absurd (Option.some.inj hread) (by decide)

end Value

end Rowsmith
