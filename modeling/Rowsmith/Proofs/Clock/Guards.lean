/-
# Guards of a stopped clock

A guard puts back what the clock was before it: a clock that runs only if no other
guard was alive when it was made. So the clock stands still while a guard is alive,
and runs again after the last one, as long as the oldest guard that is alive is the
last to go. `live_iff_unguarded_iff` says that this is all that it takes, and that
nothing less will do.
-/

import Mathlib.Data.List.Infix
import Rowsmith.Clock

namespace Rowsmith

namespace Clock

/-- Whatever the real time is, the clock shows it. -/
def IsLive (c : Clock) : Prop :=
  ∀ live, c.now live = live.truncated

/-- What is done with a clock. -/
inductive Step where
  | freeze (t : Instant)
  /-- Stops the clock at what it shows, where `live` is the real time. -/
  | freezeNow (live : Instant)
  /-- Drops the guard that was made after `i` others. -/
  | drop (i : Nat)

/-- A clock and its guards in the order in which they were made. Nothing is left of a
guard that was dropped. -/
structure Session where
  clock : Clock := .running
  guards : List (Option ClockGuard) := []

/-- Some real time is not what a stopped clock shows. -/
theorem isLive_iff {c : Clock} : c.IsLive ↔ c.stopped = none := by
  constructor
  · intro hlive
    cases hstopped : c.stopped with
    | none => rfl
    | some t =>
        exfalso
        have hshown : ∀ live : Instant, t.seconds = live.seconds := by
          intro live
          have hnow := hlive live
          rw [now, hstopped, Option.getD_some] at hnow
          have hseconds : t.truncated.seconds = live.truncated.seconds :=
            congrArg Instant.seconds hnow
          exact hseconds
        have hzero := hshown ⟨0, 0, by decide, by decide⟩
        have hone := hshown ⟨1, 0, by decide, by decide⟩
        exact absurd (hzero.symm.trans hone) (by decide)
  · intro hstopped live
    rw [now, hstopped, Option.getD_none]

namespace Session

/-- The guard that was made after `i` others is not dropped yet. -/
def IsAlive (s : Session) (i : Nat) : Prop :=
  ∃ g, s.guards[i]? = some (some g)

/-- The session after the clock was stopped. -/
def hold (s : Session) (stopped : Clock × ClockGuard) : Session :=
  ⟨stopped.1, s.guards ++ [some stopped.2]⟩

/-- The session after a step. A guard can be dropped only once. -/
def step (s : Session) : Step → Session
  | .freeze t => s.hold (s.clock.freeze t)
  | .freezeNow live => s.hold (s.clock.freezeNow live)
  | .drop i =>
    match s.guards[i]? with
    | some (some g) => ⟨s.clock.release g, s.guards.set i none⟩
    | _ => s

/-- The session after some steps. -/
def run (s : Session) (steps : List Step) : Session :=
  steps.foldl step s

/-- The clock runs exactly if no guard is alive. -/
def IsTracked (s : Session) : Prop :=
  s.clock.IsLive ↔ ¬ ∃ i, s.IsAlive i

/-- The step does not drop the oldest guard that is alive while there is another one. -/
def TakesTurn (s : Session) : Step → Prop
  | .drop i => s.IsAlive i → (∃ j < i, s.IsAlive j) ∨ ∀ j, s.IsAlive j → j = i
  | _ => True

/-- The clock runs exactly if no guard is alive, and a guard puts back a clock that
runs exactly if no older one is. -/
structure IsOrderly (s : Session) : Prop where
  tracked : s.IsTracked
  guards : ∀ i g, s.guards[i]? = some (some g) → (g.previous = none ↔ ¬ ∃ j < i, s.IsAlive j)

variable {s : Session} {i j : Nat} {g : ClockGuard}

/-! ## Steps -/

theorem isAlive_hold_iff {stopped : Clock × ClockGuard} :
    (s.hold stopped).IsAlive j ↔ s.IsAlive j ∨ j = s.guards.length := by
  rw [IsAlive, IsAlive, hold]
  rcases Nat.lt_trichotomy j s.guards.length with hlt | rfl | hgt
  · simp [List.getElem?_append_left hlt, hlt.ne]
  · simp
  · simp [List.getElem?_append_right hgt.le, hgt.ne', Nat.sub_ne_zero_of_lt hgt,
      List.getElem?_eq_none hgt.le]

/-- A clock that was stopped stands still, and is put back as it was. -/
theorem IsOrderly.hold (h : s.IsOrderly) {c : Clock} {t : Instant} (hc : c.stopped = some t) :
    (s.hold (c, ⟨s.clock.stopped⟩)).IsOrderly where
  tracked := by
    have halive : ∃ j, (s.hold (c, ⟨s.clock.stopped⟩)).IsAlive j :=
      ⟨s.guards.length, isAlive_hold_iff.mpr (.inr rfl)⟩
    have hstopped : ¬ (s.hold (c, ⟨s.clock.stopped⟩)).clock.IsLive := by
      rw [isLive_iff, Session.hold, hc]
      exact Option.some_ne_none t
    exact iff_of_false hstopped (not_not_intro halive)
  guards k g hg := by
    rcases Nat.lt_or_ge k s.guards.length with hlt | hge
    · have hold : s.guards[k]? = some (some g) := by
        rwa [Session.hold, List.getElem?_append_left hlt] at hg
      rw [h.guards k g hold]
      simp only [isAlive_hold_iff, and_or_left]
      refine not_congr (exists_congr fun j => (or_iff_left ?_).symm)
      rintro ⟨hj, rfl⟩
      omega
    · rw [Session.hold, List.getElem?_append_right hge] at hg
      obtain ⟨hk, rfl⟩ : k - s.guards.length = 0 ∧ (⟨s.clock.stopped⟩ : ClockGuard) = g := by
        simpa [List.getElem?_singleton] using hg
      obtain rfl : k = s.guards.length := by omega
      have htracked : s.clock.IsLive ↔ ¬ ∃ j, s.IsAlive j := h.tracked
      rw [← isLive_iff, htracked]
      simp only [isAlive_hold_iff, and_or_left]
      refine not_congr (exists_congr fun j => ?_)
      constructor
      · rintro ⟨g, hg⟩
        exact .inl ⟨(List.getElem?_eq_some_iff.mp hg).1, g, hg⟩
      · rintro (⟨-, hj⟩ | ⟨hj, rfl⟩)
        · exact hj
        · omega

theorem step_drop (hg : s.guards[i]? = some (some g)) :
    s.step (.drop i) = ⟨s.clock.release g, s.guards.set i none⟩ := by
  simp only [step, hg]

theorem step_drop_of_not (h : ¬ s.IsAlive i) : s.step (.drop i) = s := by
  rw [step]
  split
  next g hg => exact absurd ⟨g, hg⟩ h
  next => rfl

/-- A guard that is dropped is alive no more, and all others are as they were. -/
theorem isAlive_drop_iff (hg : s.guards[i]? = some (some g)) :
    (s.step (.drop i)).IsAlive j ↔ s.IsAlive j ∧ j ≠ i := by
  rw [step_drop hg, IsAlive, IsAlive]
  by_cases hij : i = j
  · subst hij
    simp [(List.getElem?_eq_some_iff.mp hg).1]
  · simp [List.getElem?_set_ne hij, Ne.symm hij]

/-- The clock runs after a guard was dropped exactly if that was the oldest one. -/
theorem IsOrderly.isLive_drop_iff (h : s.IsOrderly) (hg : s.guards[i]? = some (some g)) :
    (s.step (.drop i)).clock.IsLive ↔ ¬ ∃ j < i, s.IsAlive j := by
  rw [isLive_iff, step_drop hg, ← h.guards i g hg]
  rfl

/-- The clock keeps track of the guards over a step exactly if the step takes its turn. -/
theorem IsOrderly.isTracked_step_iff (h : s.IsOrderly) (x : Step) :
    (s.step x).IsTracked ↔ s.TakesTurn x := by
  cases x with
  | freeze t => exact iff_of_true (h.hold (t := t) rfl).tracked trivial
  | freezeNow live => exact iff_of_true (h.hold (t := s.clock.now live) rfl).tracked trivial
  | drop i =>
      by_cases halive : s.IsAlive i
      · obtain ⟨g, hg⟩ := halive
        have hother : (¬ ∃ j, (s.step (.drop i)).IsAlive j) ↔ ∀ j, s.IsAlive j → j = i := by
          simp only [isAlive_drop_iff hg, not_exists, not_and, not_not]
        rw [IsTracked, h.isLive_drop_iff hg, hother, TakesTurn, forall_prop_of_true ⟨g, hg⟩]
        constructor
        · intro hiff
          by_cases holder : ∃ j < i, s.IsAlive j
          · exact .inl holder
          · exact .inr (hiff.mp holder)
        · rintro (holder | hnone)
          · refine iff_of_false (not_not_intro holder) fun hnone => ?_
            obtain ⟨j, hj, halive⟩ := holder
            exact absurd (hnone j halive) hj.ne
          · refine iff_of_true ?_ hnone
            rintro ⟨j, hj, halive⟩
            exact absurd (hnone j halive) hj.ne
      · rw [step_drop_of_not halive]
        exact iff_of_true h.tracked fun h => absurd h halive

/-- Steps that take their turns keep the guards in order. -/
theorem IsOrderly.step (h : s.IsOrderly) {x : Step} (hx : s.TakesTurn x) :
    (s.step x).IsOrderly := by
  cases x with
  | freeze t => exact h.hold (t := t) rfl
  | freezeNow live => exact h.hold (t := s.clock.now live) rfl
  | drop i =>
      by_cases halive : s.IsAlive i
      · obtain ⟨g, hg⟩ := halive
        refine ⟨(h.isTracked_step_iff _).mpr hx, fun k g' hg' => ?_⟩
        obtain ⟨⟨g'', hkept⟩, hne⟩ := (isAlive_drop_iff hg).mp ⟨g', hg'⟩
        have hsame : g'' = g' := by
          rw [step_drop hg, List.getElem?_set_ne hne.symm, hkept] at hg'
          simpa using hg'
        rw [← hsame, h.guards k g'' hkept]
        simp only [isAlive_drop_iff hg]
        refine not_congr ⟨?_, fun ⟨j, hj, halive, _⟩ => ⟨j, hj, halive⟩⟩
        rintro ⟨j, hj, hjalive⟩
        by_cases hji : j = i
        · -- the guard that goes is older, so there is one that is older still
          subst hji
          rcases hx ⟨g, hg⟩ with ⟨older, holder, halive⟩ | hnone
          · exact ⟨older, holder.trans hj, halive, holder.ne⟩
          · exact absurd (hnone k ⟨g'', hkept⟩) hne
        · exact ⟨j, hj, hjalive, hji⟩
      · rwa [step_drop_of_not halive]

theorem isOrderly_running : ({} : Session).IsOrderly where
  tracked := iff_of_true (isLive_iff.mpr rfl) (by simp [IsAlive])
  guards := by simp

/-! ## Runs -/

/-- The clock keeps track of the guards over some steps exactly if each of them takes
its turn. -/
theorem IsOrderly.isTracked_run_iff (h : s.IsOrderly) (steps : List Step) :
    (∀ before, before <+: steps → (s.run before).IsTracked) ↔
      ∀ before x, before ++ [x] <+: steps → (s.run before).TakesTurn x := by
  induction steps generalizing s with
  | nil =>
      refine iff_of_true (fun before hbefore => ?_) (by simp)
      obtain rfl := List.prefix_nil.mp hbefore
      exact h.tracked
  | cons x steps ih =>
      have hall : (∀ before, before <+: x :: steps → (s.run before).IsTracked) ↔
          ∀ before, before <+: steps → ((s.step x).run before).IsTracked := by
        simp only [List.prefix_cons_iff, forall_eq_or_imp, forall_exists_index, and_imp]
        constructor
        · rintro ⟨-, hall⟩ before hbefore
          exact hall _ before rfl hbefore
        · intro hall
          refine ⟨h.tracked, ?_⟩
          rintro _ before rfl hbefore
          exact hall before hbefore
      have hturns : (∀ before y, before ++ [y] <+: x :: steps → (s.run before).TakesTurn y) ↔
          s.TakesTurn x ∧
            ∀ before y, before ++ [y] <+: steps → ((s.step x).run before).TakesTurn y := by
        constructor
        · intro hall
          refine ⟨hall [] x (by simp), fun before y hbefore => ?_⟩
          exact hall (x :: before) y (List.cons_prefix_cons.mpr ⟨rfl, hbefore⟩)
        · rintro ⟨hx, hall⟩ before y hbefore
          cases before with
          | nil =>
              obtain ⟨rfl, -⟩ := List.cons_prefix_cons.mp hbefore
              exact hx
          | cons z before =>
              obtain ⟨rfl, hrest⟩ := List.cons_prefix_cons.mp hbefore
              exact hall before y hrest
      rw [hall, hturns]
      by_cases hx : s.TakesTurn x
      · rw [ih (h.step hx), and_iff_right hx]
      · refine iff_of_false (fun hall => hx ?_) fun hall => hx hall.1
        exact (h.isTracked_step_iff x).mp (hall [] List.nil_prefix)

end Session

/-- Over some steps from a clock that runs, the clock runs after each of them exactly if
no guard is alive, if and only if no step drops the oldest guard that is alive while
there is another one. -/
theorem live_iff_unguarded_iff (steps : List Step) :
    (∀ before, before <+: steps → ((Session.run {} before).clock.IsLive ↔
      ¬ ∃ i, (Session.run {} before).IsAlive i)) ↔
    ∀ before i, before ++ [.drop i] <+: steps → (Session.run {} before).IsAlive i →
      (∃ j < i, (Session.run {} before).IsAlive j) ∨
        ∀ j, (Session.run {} before).IsAlive j → j = i := by
  refine (Session.isOrderly_running.isTracked_run_iff steps).trans ⟨fun h before i hbefore => ?_,
    fun h before x hbefore => ?_⟩
  · exact h before (.drop i) hbefore
  · cases x with
    | freeze t => trivial
    | freezeNow live => trivial
    | drop i => exact h before i hbefore

/-- Two stops, of which the first is undone first. -/
def crossedSteps : List Step :=
  [.freeze ⟨1000, 0, by decide, two_nanosPerSecond_pos⟩,
    .freeze ⟨2000, 0, by decide, two_nanosPerSecond_pos⟩, .drop 0, .drop 1]

/-- The clock runs while the second guard is alive, and stands still after all guards
were dropped. -/
theorem unguarded_and_stopped :
    ((Session.run {} (crossedSteps.take 3)).clock.IsLive ∧
      (Session.run {} (crossedSteps.take 3)).IsAlive 1) ∧
    (¬ (Session.run {} crossedSteps).clock.IsLive ∧
      ∀ i, ¬ (Session.run {} crossedSteps).IsAlive i) := by
  refine ⟨⟨isLive_iff.mpr (by decide), ⟨⟨some ⟨1000, 0, by decide, by decide⟩⟩, by decide⟩⟩, ?_, ?_⟩
  · rw [isLive_iff]
    decide
  · rintro i ⟨g, hg⟩
    have hguards : (Session.run {} crossedSteps).guards = [none, none] := by decide
    rw [hguards] at hg
    rcases i with _ | _ | i <;> simp at hg

end Clock

end Rowsmith
