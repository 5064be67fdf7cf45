/-
# Steps and traversals that may fail

Two steps of which each may fail succeed exactly when both do; on a state the
second goes on from the state that the first leaves. A traversal of a
list by a function that may fail succeeds exactly when the function succeeds at
every member, with the results in order. Two runs that fail alike keep doing so under
what follows.
-/

import Mathlib.Data.List.Forall2

namespace Rowsmith

variable {α β γ δ ε : Type}

theorem bind_eq_ok_iff {x : Except ε α} {f : α → Except ε β} {b : β} :
    (x >>= f) = .ok b ↔ ∃ a, x = .ok a ∧ f a = .ok b := by
  cases x with
  | error e => simp [bind, Except.bind]
  | ok a => simp [bind, Except.bind]

/-- Two steps fail with the first error that there is. -/
theorem bind_eq_error_iff {x : Except ε α} {f : α → Except ε β} {e : ε} :
    (x >>= f) = .error e ↔ x = .error e ∨ ∃ a, x = .ok a ∧ f a = .error e := by
  cases x with
  | error e' => simp [bind, Except.bind]
  | ok a => simp [bind, Except.bind]

theorem map_eq_ok_iff {f : α → β} {x : Except ε α} {b : β} :
    x.map f = .ok b ↔ ∃ a, x = .ok a ∧ f a = b := by
  cases x <;> simp [Except.map]

theorem map_eq_error_iff {f : α → β} {x : Except ε α} {e : ε} :
    x.map f = .error e ↔ x = .error e := by
  cases x <;> simp [Except.map]

theorem eq_ok_of_toOption {x : Except ε α} {a : α} (h : x.toOption = some a) :
    x = .ok a := by
  cases x with
  | error e => cases h
  | ok b => exact congrArg Except.ok (Option.some.inj h)

/-- A check that may refuse lets a result through exactly when it does not refuse. -/
theorem ite_error_eq_ok_iff {c : Prop} [Decidable c] {e : ε} {x : Except ε α} {a : α} :
    (if c then .error e else x) = .ok a ↔ ¬ c ∧ x = .ok a := by
  by_cases hc : c <;> simp [hc]

theorem ite_error_eq_error_iff {c : Prop} [Decidable c] {e e' : ε} {x : Except ε α} :
    (if c then .error e else x) = .error e' ↔ c ∧ e = e' ∨ ¬ c ∧ x = .error e' := by
  by_cases hc : c <;> simp [hc]

/-- Two steps on a state: the second goes on from the state that the first leaves. -/
theorem run_bind_eq {σ : Type} (x : ExceptT ε (StateM σ) α) (f : α → ExceptT ε (StateM σ) β)
    (s : σ) :
    (x >>= f).run s =
      match x.run s with
      | (.ok a, s') => (f a).run s'
      | (.error e, s') => (.error e, s') := by
  rw [ExceptT.run_bind]
  simp only [bind, StateT.bind]
  rcases x.run s with ⟨_ | _, s'⟩ <;> rfl

/-- An error in place of another leaves results as they are. -/
theorem mapError_eq_ok_iff {ε' : Type} {f : ε → ε'} {x : Except ε α} {a : α} :
    x.mapError f = .ok a ↔ x = .ok a := by
  cases x <;> simp [Except.mapError]

theorem mapError_eq_error_iff {ε' : Type} {f : ε → ε'} {x : Except ε α} {e' : ε'} :
    x.mapError f = .error e' ↔ ∃ e, x = .error e ∧ f e = e' := by
  cases x <;> simp [Except.mapError]

/-- A traversal succeeds exactly when the function relates the members of both
lists in order. -/
theorem mapM_eq_ok_iff {f : α → Except ε β} {xs : List α} {ys : List β} :
    xs.mapM f = .ok ys ↔ List.Forall₂ (fun x y => f x = .ok y) xs ys := by
  induction xs generalizing ys with
  | nil => simp [pure, Except.pure, eq_comm]
  | cons x xs ih =>
      rw [List.mapM_cons, List.forall₂_cons_left_iff]
      cases hx : f x with
      | error e => simp [bind, Except.bind]
      | ok y =>
          cases hxs : xs.mapM f with
          | error e => simp [bind, Except.bind, ← ih, hxs]
          | ok rest => simp [bind, Except.bind, pure, Except.pure, ← ih, hxs, eq_comm]

/-- What is related to the members of a list is related to some member of it. -/
theorem exists_of_mem_of_forall₂ {R : α → β → Prop} {xs : List α} {ys : List β}
    (h : List.Forall₂ R xs ys) {y : β} (hy : y ∈ ys) : ∃ x ∈ xs, R x y := by
  induction h with
  | nil => cases hy
  | cons hhead _ ih =>
      rcases List.mem_cons.mp hy with rfl | hy
      · exact ⟨_, List.mem_cons_self, hhead⟩
      · obtain ⟨x, hx, hrelated⟩ := ih hy
        exact ⟨x, List.mem_cons_of_mem _ hx, hrelated⟩

/-- Every result of a traversal is that of some member. -/
theorem exists_of_mem_mapM {f : α → Except ε β} {xs : List α} {ys : List β}
    (h : xs.mapM f = .ok ys) {y : β} (hy : y ∈ ys) : ∃ x ∈ xs, f x = .ok y :=
  exists_of_mem_of_forall₂ (mapM_eq_ok_iff.mp h) hy

/-- Every member of a list has a result among those of a traversal. -/
theorem exists_mem_of_mapM {f : α → Except ε β} {xs : List α} {ys : List β}
    (h : xs.mapM f = .ok ys) {x : α} (hx : x ∈ xs) : ∃ y ∈ ys, f x = .ok y :=
  exists_of_mem_of_forall₂ (mapM_eq_ok_iff.mp h).flip hx

/-- A traversal that succeeds has a result for every member. -/
theorem exists_ok_of_mapM {f : α → Except ε β} {xs : List α} {ys : List β}
    (h : xs.mapM f = .ok ys) {x : α} (hx : x ∈ xs) : ∃ y, f x = .ok y := by
  obtain ⟨y, -, hy⟩ := exists_mem_of_mapM h hx
  exact ⟨y, hy⟩

/-- A traversal with positions relates the members at each position. -/
theorem mapM_zipIdx_eq_ok_iff {f : α × Nat → Except ε β} {xs : List α} {ys : List β} :
    xs.zipIdx.mapM f = .ok ys ↔ ys.length = xs.length ∧
      ∀ i x y, xs[i]? = some x → ys[i]? = some y → f (x, i) = .ok y := by
  rw [mapM_eq_ok_iff, List.forall₂_iff_get]
  simp only [List.length_zipIdx, List.get_eq_getElem, List.getElem_zipIdx, Nat.zero_add]
  constructor
  · rintro ⟨hlength, hmembers⟩
    refine ⟨hlength.symm, fun i x y hx hy => ?_⟩
    obtain ⟨hi, rfl⟩ := List.getElem?_eq_some_iff.mp hx
    obtain ⟨hj, rfl⟩ := List.getElem?_eq_some_iff.mp hy
    exact hmembers i hi hj
  · rintro ⟨hlength, hmembers⟩
    exact ⟨hlength.symm, fun i hi hj =>
      hmembers i _ _ (List.getElem?_eq_getElem hi) (List.getElem?_eq_getElem hj)⟩

/-- Traversals by functions that agree at every member agree, also where they fail. -/
theorem mapM_congr {f g : α → Except ε β} {xs : List α} (h : ∀ x ∈ xs, f x = g x) :
    xs.mapM f = xs.mapM g := by
  induction xs with
  | nil => rfl
  | cons x xs ih =>
      rw [List.mapM_cons, List.mapM_cons, h x List.mem_cons_self,
        ih fun y hy => h y (List.mem_cons_of_mem x hy)]

/-- A traversal fails with the error at the first member at which there is one. -/
theorem mapM_eq_error_iff {f : α → Except ε β} {xs : List α} {e : ε} :
    xs.mapM f = .error e ↔ ∃ (i : Nat) (x : α), xs[i]? = some x ∧ f x = .error e ∧
      ∀ j y, j < i → xs[j]? = some y → ∃ b, f y = .ok b := by
  induction xs with
  | nil => simp [pure, Except.pure]
  | cons x xs ih =>
      rw [List.mapM_cons, bind_eq_error_iff]
      simp only [bind_eq_error_iff, pure, Except.pure, reduceCtorEq, and_false, exists_false,
        or_false, ih]
      constructor
      · rintro (hx | ⟨b, hx, i, y, hy, herror, hbefore⟩)
        · exact ⟨0, x, rfl, hx, fun j y hj => absurd hj (Nat.not_lt_zero j)⟩
        · refine ⟨i + 1, y, hy, herror, fun j z hj hz => ?_⟩
          cases j with
          | zero => exact ⟨b, (Option.some.inj hz) ▸ hx⟩
          | succ j => exact hbefore j z (Nat.lt_of_succ_lt_succ hj) hz
      · rintro ⟨i, y, hy, herror, hbefore⟩
        cases i with
        | zero => exact .inl ((Option.some.inj hy) ▸ herror)
        | succ i =>
            obtain ⟨b, hb⟩ := hbefore 0 x (Nat.succ_pos i) rfl
            exact .inr ⟨b, hb, i, y, hy, herror, fun j z hj hz =>
              hbefore (j + 1) z (Nat.succ_lt_succ hj) hz⟩

/-- A traversal succeeds exactly when the function does at every member. -/
theorem exists_mapM_eq_ok_iff {f : α → Except ε β} {xs : List α} :
    (∃ ys, xs.mapM f = .ok ys) ↔ ∀ x ∈ xs, ∃ y, f x = .ok y := by
  constructor
  · rintro ⟨ys, hys⟩ x hx
    exact exists_ok_of_mapM hys hx
  · intro hall
    cases hmap : xs.mapM f with
    | ok ys => exact ⟨ys, rfl⟩
    | error e =>
        obtain ⟨i, x, hx, herror, -⟩ := mapM_eq_error_iff.mp hmap
        obtain ⟨y, hy⟩ := hall x (List.mem_of_getElem? hx)
        cases herror.symm.trans hy

/-- A traversal with positions fails at the first position at which there is an
error. -/
theorem mapM_zipIdx_eq_error_iff {f : α × Nat → Except ε β} {xs : List α} {e : ε} :
    xs.zipIdx.mapM f = .error e ↔ ∃ i x, xs[i]? = some x ∧ f (x, i) = .error e ∧
      ∀ j y, j < i → xs[j]? = some y → ∃ b, f (y, j) = .ok b := by
  rw [mapM_eq_error_iff]
  simp only [List.getElem?_zipIdx, Nat.zero_add, Option.map_eq_some_iff]
  constructor
  · rintro ⟨i, -, ⟨x, hx, rfl⟩, herror, hbefore⟩
    exact ⟨i, x, hx, herror, fun j y hj hy => hbefore j (y, j) hj ⟨y, hy, rfl⟩⟩
  · rintro ⟨i, x, hx, herror, hbefore⟩
    refine ⟨i, (x, i), ⟨x, hx, rfl⟩, herror, ?_⟩
    rintro j - hj ⟨y, hy, rfl⟩
    exact hbefore j y hj hy

/-- A traversal gives all values if the function has one for every member. -/
theorem mapM_eq_some_map {f : α → Option β} {g : α → β} {xs : List α}
    (h : ∀ x ∈ xs, f x = some (g x)) : xs.mapM f = some (xs.map g) := by
  induction xs with
  | nil => rfl
  | cons x xs ih =>
      rw [List.mapM_cons, h x List.mem_cons_self, ih fun y hy => h y (List.mem_cons_of_mem _ hy)]
      rfl

theorem mapM_eq_none {f : α → Option β} {xs : List α} {x : α} (hx : x ∈ xs)
    (h : f x = none) : xs.mapM f = none := by
  induction xs with
  | nil => cases hx
  | cons y xs ih =>
      rw [List.mapM_cons]
      rcases List.mem_cons.mp hx with rfl | hx
      · rw [h]
        rfl
      · rw [ih hx]
        cases f y <;> rfl

/-! ## Runs that fail alike -/

/-- Two runs fail with the same errors, whatever they find where they succeed. -/
def FailsAlike (x : Except ε α) (y : Except ε β) : Prop :=
  ∀ e, x = .error e ↔ y = .error e

namespace FailsAlike

theorem ok (a : α) (b : β) : FailsAlike (.ok a : Except ε α) (.ok b : Except ε β) :=
  fun _ => iff_of_false nofun nofun

theorem bind {x : Except ε α} {y : Except ε β} {f : α → Except ε γ} {g : β → Except ε δ}
    (h : FailsAlike x y) (hrest : ∀ a b, FailsAlike (f a) (g b)) :
    FailsAlike (x >>= f) (y >>= g) := by
  intro e
  cases x with
  | error first =>
      rw [(h first).mp rfl]
      show Except.error first = .error e ↔ Except.error first = .error e
      rw [Except.error.injEq, Except.error.injEq]
  | ok a =>
      cases y with
      | error first => cases (h first).mpr rfl
      | ok b => exact hrest a b e

theorem map {x : Except ε α} {y : Except ε β} (h : FailsAlike x y) (f : α → γ) (g : β → δ) :
    FailsAlike (x.map f) (y.map g) := by
  have hrest : ∀ a b, FailsAlike (.ok (f a) : Except ε γ) (.ok (g b)) := fun a b => ok (f a) (g b)
  cases x <;> cases y <;> exact h.bind hrest

theorem mapM {f : α → Except ε γ} {g : β → Except ε δ} {xs : List α} {ys : List β}
    (h : List.Forall₂ (fun x y => FailsAlike (f x) (g y)) xs ys) :
    FailsAlike (xs.mapM f) (ys.mapM g) := by
  induction h with
  | nil => exact ok [] []
  | cons hhead _ ih =>
      rw [List.mapM_cons, List.mapM_cons]
      exact hhead.bind fun a b => ih.bind fun as bs => ok (a :: as) (b :: bs)

end FailsAlike

end Rowsmith
