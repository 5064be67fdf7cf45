/-
# Stops within stops

Guards that are dropped in turn, the innermost first, take the clock back through
the states that it was stopped in. Each guard keeps only the state before its own
stop, so what the clock shows is spread over all guards that are alive. `IsPiled`
says how they fit together: every stop found the clock as the stop before it had
left it. `nested_stops` reads off what the clock and its guards show after each
step, and what they show once a guard is dropped.
-/

import Rowsmith.Proofs.Clock.Guards

namespace Rowsmith.Clock

/-- The instant at which a step stops the clock `c`, if it stops it. -/
def Step.instant? (c : Clock) : Step → Option Instant
  | .freeze t => some t
  | .freezeNow live => some (c.now live)
  | .drop _ => none

/-- A stop of the clock. -/
structure Stop where
  /-- The number of guards that were made before its own. -/
  place : Nat
  /-- The clock before the stop. -/
  before : Clock
  /-- The instant at which the clock was stopped. -/
  instant : Instant

namespace Session

/-- One of the steps made the stop. -/
def Makes (s : Session) (steps : List Step) (p : Stop) : Prop :=
  ∃ earlier x, earlier ++ [x] <+: steps ∧ (s.run earlier).guards.length = p.place ∧
    (s.run earlier).clock = p.before ∧ x.instant? p.before = some p.instant

/-- The guard that was made after `i` others is alive, and none that was made later is. -/
def IsInnermost (s : Session) (i : Nat) : Prop :=
  s.IsAlive i ∧ ∀ j, s.IsAlive j → j ≤ i

/-- Every guard that the steps drop is the innermost one at that time. -/
def IsNested (s : Session) (steps : List Step) : Prop :=
  ∀ before i, before ++ [.drop i] <+: steps → (s.run before).IsInnermost i

/-- Whatever the real time is, the clock and every guard that is alive show the instant
`t` without its part of a second. -/
def Shows (s : Session) (t : Instant) : Prop :=
  ∀ live, s.clock.now live = t.truncated ∧
    ∀ (i : Nat) (g : ClockGuard), s.guards[i]? = some (some g) → g.time s.clock live = t.truncated

/-- The clock after stops of which the last comes first, each made when the clock was
as the one before it had left it. -/
inductive Piled (c : Clock) : List Stop → Clock → Prop
  | nil : Piled c [] c
  | cons (p : Stop) {stops : List Stop} (before : Piled c stops p.before) :
      Piled c (p :: stops) ⟨some p.instant⟩

/-- The guards that are alive after the steps are those of the stops, the innermost
first, and the stops led to the clock as it is. -/
structure IsPiled (s : Session) (steps : List Step) (stops : List Stop) : Prop where
  clock : Piled s.clock stops (s.run steps).clock
  alive : ∀ i, (s.run steps).IsAlive i ↔ ∃ p ∈ stops, p.place = i
  ordered : stops.Pairwise fun p q => q.place < p.place
  made : ∀ p ∈ stops, s.Makes steps p

variable {s : Session} {steps : List Step} {stops : List Stop} {p : Stop} {g : ClockGuard}
  {i : Nat}

/-! ## Guards over steps -/

theorem run_concat (s : Session) (steps : List Step) (x : Step) :
    s.run (steps ++ [x]) = (s.run steps).step x := by
  rw [run, run, List.foldl_concat]

theorem step_of_instant? {x : Step} {t : Instant} (h : x.instant? s.clock = some t) :
    s.step x = s.hold (⟨some t⟩, ⟨s.clock.stopped⟩) := by
  cases x with
  | freeze t' =>
      cases h
      rfl
  | freezeNow live =>
      cases h
      rfl
  | drop i => cases h

/-- A guard that is there after a step and is not new was there before it. -/
theorem getElem?_of_step {x : Step} (hi : i < s.guards.length)
    (h : (s.step x).guards[i]? = some (some g)) : s.guards[i]? = some (some g) := by
  cases x with
  | freeze t => rwa [step, hold, List.getElem?_append_left hi] at h
  | freezeNow live => rwa [step, hold, List.getElem?_append_left hi] at h
  | drop k =>
      by_cases halive : s.IsAlive k
      · obtain ⟨g', hg'⟩ := halive
        obtain ⟨⟨g'', hkept⟩, hne⟩ := (isAlive_drop_iff hg').mp ⟨g, h⟩
        rwa [step_drop hg', List.getElem?_set_ne hne.symm] at h
      · rwa [step_drop_of_not halive] at h

theorem length_guards_le_step (s : Session) (x : Step) :
    s.guards.length ≤ (s.step x).guards.length := by
  cases x with
  | freeze t => simp [step, hold]
  | freezeNow live => simp [step, hold]
  | drop i =>
      by_cases halive : s.IsAlive i
      · obtain ⟨g, hg⟩ := halive
        rw [step_drop hg, List.length_set]
      · rw [step_drop_of_not halive]

theorem Makes.concat (h : s.Makes steps p) (x : Step) : s.Makes (steps ++ [x]) p := by
  obtain ⟨earlier, y, hprefix, hmade⟩ := h
  exact ⟨earlier, y, hprefix.trans (List.prefix_append steps [x]), hmade⟩

/-- The guard of a stop is one of those after the steps. As long as it is there it
keeps the state of the clock before the stop. -/
theorem Makes.previous_eq (h : s.Makes steps p) :
    p.place < (s.run steps).guards.length ∧
      ∀ g, (s.run steps).guards[p.place]? = some (some g) → g.previous = p.before.stopped := by
  obtain ⟨earlier, x, hprefix, hplace, hbefore, hinstant⟩ := h
  induction steps using List.reverseRecOn with
  | nil => simp at hprefix
  | append_singleton steps y ih =>
      rw [run_concat]
      rcases List.prefix_concat_iff.mp hprefix with heq | hprefix
      · -- the last step made the stop, so its guard comes last
        obtain ⟨rfl, hxy⟩ := List.append_inj' heq rfl
        obtain rfl := List.singleton_inj.mp hxy
        rw [step_of_instant? (hbefore ▸ hinstant), hold, ← hplace, ← hbefore]
        refine ⟨by simp, fun g hg => ?_⟩
        rw [List.getElem?_concat_length] at hg
        cases hg
        rfl
      · obtain ⟨hlt, hkept⟩ := ih hprefix
        exact ⟨hlt.trans_le (length_guards_le_step _ _),
          fun g hg => hkept g (getElem?_of_step hlt hg)⟩

/-- Dropping the guard of a stop puts the clock back as it was before the stop. -/
theorem Makes.clock_drop (h : s.Makes steps p) (halive : (s.run steps).IsAlive p.place) :
    (s.run (steps ++ [.drop p.place])).clock = p.before := by
  obtain ⟨g, hg⟩ := halive
  rw [run_concat, step_drop hg, release, h.previous_eq.2 g hg]

/-! ## Piles of stops -/

/-- The clock stands where the stop on top has stopped it. -/
theorem piled_cons_iff {c clock : Clock} :
    Piled c (p :: stops) clock ↔ clock = ⟨some p.instant⟩ ∧ Piled c stops p.before := by
  constructor
  · intro h
    cases h with
    | cons _ before => exact ⟨rfl, before⟩
  · rintro ⟨rfl, before⟩
    exact .cons p before

theorem IsNested.of_prefix {before : List Step} (h : s.IsNested steps) (hbefore : before <+: steps) :
    s.IsNested before :=
  fun _ _ hdrop => h _ _ (hdrop.trans hbefore)

/-- One more step is nested if it drops the innermost guard or none. -/
theorem IsNested.concat (h : s.IsNested steps) {x : Step}
    (hx : ∀ i, x = .drop i → (s.run steps).IsInnermost i) : s.IsNested (steps ++ [x]) := by
  intro before i hdrop
  rcases List.prefix_concat_iff.mp hdrop with heq | hbefore
  · obtain ⟨rfl, hlast⟩ := List.append_inj' heq rfl
    exact hx i (List.singleton_inj.mp hlast).symm
  · exact h before i hbefore

theorem isInnermost_of_later (halive : s.guards[i]?.join.isSome = true)
    (hlater : ∀ g ∈ s.guards.drop (i + 1), g = none) : s.IsInnermost i := by
  constructor
  · obtain ⟨g, hg⟩ := Option.isSome_iff_exists.mp halive
    exact ⟨g, Option.join_eq_some_iff.mp hg⟩
  · rintro j ⟨g, hg⟩
    by_contra hij
    have hmem : some g ∈ s.guards.drop (i + 1) := by
      refine List.mem_of_getElem? (i := j - (i + 1)) ?_
      rw [List.getElem?_drop, Nat.add_sub_cancel' (not_le.mp hij), hg]
    cases hlater _ hmem

/-- A step that stops the clock puts its stop on top. -/
theorem IsPiled.concat_stop (h : s.IsPiled steps stops) {x : Step} {t : Instant}
    (hx : x.instant? (s.run steps).clock = some t) :
    s.IsPiled (steps ++ [x]) (⟨(s.run steps).guards.length, (s.run steps).clock, t⟩ :: stops) := by
  have hstep := step_of_instant? hx
  constructor
  · rw [run_concat, hstep]
    exact .cons _ h.clock
  · intro i
    rw [run_concat, hstep, isAlive_hold_iff, h.alive, List.exists_mem_cons_iff, or_comm,
      eq_comm (a := i)]
  · refine List.pairwise_cons.mpr ⟨fun q hq => ?_, h.ordered⟩
    exact (h.made q hq).previous_eq.1
  · rw [List.forall_mem_cons]
    exact ⟨⟨steps, x, List.prefix_rfl, rfl, rfl, hx⟩, fun q hq => (h.made q hq).concat x⟩

/-- The innermost guard is that of the stop on top. -/
theorem IsPiled.isInnermost (h : s.IsPiled steps (p :: stops)) :
    (s.run steps).IsInnermost p.place := by
  refine ⟨(h.alive _).mpr ⟨p, List.mem_cons_self, rfl⟩, fun j hj => ?_⟩
  obtain ⟨q, hq, rfl⟩ := (h.alive j).mp hj
  rcases List.mem_cons.mp hq with rfl | hq
  · exact le_rfl
  · exact (List.rel_of_pairwise_cons h.ordered hq).le

theorem IsInnermost.eq {j : Nat} (hi : s.IsInnermost i) (hj : s.IsInnermost j) : i = j :=
  le_antisymm (hj.2 i hi.1) (hi.2 j hj.1)

/-- A step that drops the innermost guard takes the stop on top away. -/
theorem IsPiled.concat_drop (h : s.IsPiled steps (p :: stops)) :
    s.IsPiled (steps ++ [.drop p.place]) stops := by
  have halive := h.isInnermost.1
  have hmade := h.made p List.mem_cons_self
  constructor
  · rw [hmade.clock_drop halive]
    exact (piled_cons_iff.mp h.clock).2
  · intro i
    obtain ⟨g, hg⟩ := halive
    rw [run_concat, isAlive_drop_iff hg, h.alive, List.exists_mem_cons_iff]
    constructor
    · rintro ⟨rfl | hkept, hne⟩
      · exact absurd rfl hne
      · exact hkept
    · rintro ⟨q, hq, rfl⟩
      exact ⟨.inr ⟨q, hq, rfl⟩, (List.rel_of_pairwise_cons h.ordered hq).ne⟩
  · exact h.ordered.of_cons
  · exact fun q hq => (h.made q (List.mem_cons_of_mem p hq)).concat _

/-- The guards that are alive after nested steps are those of a pile of stops. -/
theorem exists_isPiled {c : Clock} (h : IsNested { clock := c } steps) :
    ∃ stops, IsPiled { clock := c } steps stops := by
  induction steps using List.reverseRecOn with
  | nil => exact ⟨[], .nil, by simp [run, IsAlive], .nil, by simp⟩
  | append_singleton steps x ih =>
      obtain ⟨stops, hstops⟩ := ih (h.of_prefix (List.prefix_append steps [x]))
      cases x with
      | freeze t => exact ⟨_, hstops.concat_stop (t := t) rfl⟩
      | freezeNow live => exact ⟨_, hstops.concat_stop rfl⟩
      | drop i =>
          have hinnermost := h steps i List.prefix_rfl
          cases stops with
          | nil =>
              obtain ⟨q, hq, -⟩ := (hstops.alive i).mp hinnermost.1
              cases hq
          | cons p stops =>
              obtain rfl := hstops.isInnermost.eq hinnermost
              exact ⟨stops, hstops.concat_drop⟩

end Session

open Session

/-- Guards that are dropped in turn, whether the clock runs or stands still at first. As
long as one is alive, the clock shows the instant at which the innermost one has
stopped it, in whole seconds, and so do all guards. Once a guard is dropped the clock
shows what it would have shown before that guard was made, and runs if it ran then. -/
theorem nested_stops (c : Clock) {steps : List Step} (h : IsNested { clock := c } steps) :
    (∀ before, before <+: steps → (∃ i, (run { clock := c } before).IsAlive i) →
      ∃ p, Makes { clock := c } before p ∧ (run { clock := c } before).IsInnermost p.place ∧
        (run { clock := c } before).Shows p.instant) ∧
    ∀ before i p, before ++ [.drop i] <+: steps → Makes { clock := c } before p → p.place = i →
      (∀ live, (run { clock := c } (before ++ [.drop i])).clock.now live = p.before.now live) ∧
        ((run { clock := c } (before ++ [.drop i])).clock.IsLive ↔ p.before.IsLive) := by
  constructor
  · rintro before hbefore ⟨i, hi⟩
    obtain ⟨stops, hstops⟩ := exists_isPiled (h.of_prefix hbefore)
    cases stops with
    | nil =>
        obtain ⟨q, hq, -⟩ := (hstops.alive i).mp hi
        cases hq
    | cons p stops =>
        have hclock := (piled_cons_iff.mp hstops.clock).1
        refine ⟨p, hstops.made p List.mem_cons_self, hstops.isInnermost, fun live => ?_⟩
        rw [hclock]
        exact ⟨rfl, fun _ _ _ => rfl⟩
  · rintro before i p hdrop hmade rfl
    rw [hmade.clock_drop (h before p.place hdrop).1]
    exact ⟨fun _ => rfl, Iff.rfl⟩

/-- A clock that was stopped before, in the leap second in the middle of 2015. -/
def stoppedClock : Clock :=
  ⟨some ⟨1435708799, 1700000000, by decide, by decide⟩⟩

/-- A stop at the time that the clock shows, and one within it that is undone first. -/
def nestedSteps : List Step :=
  [.freezeNow ⟨86400, 5, by decide, by decide⟩, .freeze ⟨172800, 7, by decide, by decide⟩, .drop 1,
    .drop 0]

theorem isNested_nestedSteps : IsNested { clock := stoppedClock } nestedSteps := by
  have hnone : IsNested { clock := stoppedClock } [] := by
    intro before i hdrop
    simp at hdrop
  have hfirst := hnone.concat (x := .freezeNow ⟨86400, 5, by decide, by decide⟩) nofun
  have hsecond := hfirst.concat (x := .freeze ⟨172800, 7, by decide, by decide⟩) nofun
  have hinner := hsecond.concat (x := .drop 1) (by
    rintro i ⟨⟩
    exact isInnermost_of_later (by decide) (by decide))
  exact hinner.concat (x := .drop 0) (by
    rintro i ⟨⟩
    exact isInnermost_of_later (by decide) (by decide))

/-- Both guards show the time of the inner stop, and after the last drop the clock shows the
leap second again, without its part of a second. -/
theorem nested_stops_leapSecond :
    (∃ p, Makes { clock := stoppedClock } (nestedSteps.take 2) p ∧
      (run { clock := stoppedClock } (nestedSteps.take 2)).IsInnermost p.place ∧
      (run { clock := stoppedClock } (nestedSteps.take 2)).Shows p.instant) ∧
    ∀ live, ((run { clock := stoppedClock } nestedSteps).clock.now live).seconds = 1435708799 ∧
      ((run { clock := stoppedClock } nestedSteps).clock.now live).nanos = 0 := by
  obtain ⟨hshown, hback⟩ := nested_stops stoppedClock isNested_nestedSteps
  refine ⟨hshown _ (List.take_prefix 2 _) ⟨1, _, rfl⟩, fun live => ?_⟩
  have hmade : Makes { clock := stoppedClock } (nestedSteps.take 3)
      ⟨0, stoppedClock, stoppedClock.now ⟨86400, 5, by decide, by decide⟩⟩ :=
    ⟨[], .freezeNow ⟨86400, 5, by decide, by decide⟩, List.prefix_append _ _, rfl, rfl, rfl⟩
  have hreading : (run { clock := stoppedClock } nestedSteps).clock.now live =
      stoppedClock.now live :=
    (hback (nestedSteps.take 3) 0 _ List.prefix_rfl hmade rfl).1 live
  rw [hreading]
  exact ⟨rfl, rfl⟩

end Rowsmith.Clock
