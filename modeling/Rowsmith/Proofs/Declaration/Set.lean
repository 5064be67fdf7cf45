/-
# Sets of declarations as maps

A set of declarations answers for a path what was inserted last under it. Its index leads
a path to one position only, so it has at most one declaration for a path, however often
one is inserted there, and insertions under other paths leave it and its position alone.
-/

import Mathlib.Data.List.Nodup
import Rowsmith.Declaration.Set

namespace Rowsmith.DeclSet

variable {s : DeclSet} {d d' : Decl} {path : TypePath} {i : Nat}

theorem position?_eq_some_iff :
    s.position? path = some i ↔ ∃ d, s.decls[i]? = some d ∧ d.path = path :=
  s.isIndex path i

theorem position?_eq_none_iff : s.position? path = none ↔ ∀ d ∈ s.decls, d.path ≠ path := by
  rw [Option.eq_none_iff_forall_ne_some]
  constructor
  · rintro h d hd rfl
    obtain ⟨i, hi⟩ := List.mem_iff_getElem?.mp hd
    exact h i (position?_eq_some_iff.mpr ⟨d, hi, rfl⟩)
  · intro h i hi
    obtain ⟨d, hd, hpath⟩ := position?_eq_some_iff.mp hi
    exact h d (List.mem_of_getElem? hd) hpath

theorem get?_eq_bind (s : DeclSet) (path : TypePath) :
    s.get? path = (s.position? path).bind fun i => s.decls[i]? := by
  unfold get?
  split
  next i h => simp [h, position?_lt_size h]
  next h => rw [h, Option.bind_none]

theorem get?_eq_some_iff : s.get? path = some d ↔ d ∈ s.decls ∧ d.path = path := by
  rw [get?_eq_bind, Option.bind_eq_some_iff]
  constructor
  · rintro ⟨i, hposition, hd⟩
    obtain ⟨d', hd', hpath⟩ := position?_eq_some_iff.mp hposition
    obtain rfl := Option.some.inj (hd.symm.trans hd')
    exact ⟨List.mem_of_getElem? hd, hpath⟩
  · rintro ⟨hd, hpath⟩
    obtain ⟨i, hi⟩ := List.mem_iff_getElem?.mp hd
    exact ⟨i, position?_eq_some_iff.mpr ⟨d, hi, hpath⟩, hi⟩

/-- What is found under a path is declared there. -/
theorem path_of_get?_eq_some (h : s.get? path = some d) : d.path = path :=
  (get?_eq_some_iff.mp h).2

theorem mem_of_get?_eq_some (h : s.get? path = some d) : d ∈ s.decls :=
  (get?_eq_some_iff.mp h).1

/-- No two declarations have one path. -/
def IsDistinct (s : DeclSet) : Prop :=
  (s.decls.map Decl.path).Nodup

instance (s : DeclSet) : Decidable s.IsDistinct :=
  inferInstanceAs (Decidable (s.decls.map Decl.path).Nodup)

/-- A path has one position, so two declarations cannot share it. -/
theorem isDistinct (s : DeclSet) : s.IsDistinct := by
  rw [IsDistinct, List.nodup_iff_getElem?_ne_getElem?]
  intro i j hlt hj heq
  have hlater := List.getElem?_eq_getElem hj
  have hearlier := heq.trans hlater
  rw [List.getElem?_map, Option.map_eq_some_iff] at hlater hearlier
  obtain ⟨d, hd, hpath⟩ := hlater
  obtain ⟨d', hd', hpath'⟩ := hearlier
  have hsame : some i = some j :=
    (position?_eq_some_iff.mpr ⟨d', hd', hpath'⟩).symm.trans
      (position?_eq_some_iff.mpr ⟨d, hd, hpath⟩)
  exact Nat.ne_of_lt hlt (Option.some.inj hsame)

/-! ## One insertion -/

theorem insert_of_position? (h : s.position? d.path = some i) :
    s.insert d = ⟨s.decls.set i d, s.index, s.isIndex.replace h⟩ := by
  unfold insert
  split
  next j hj =>
    obtain rfl := Option.some.inj (h.symm.trans hj)
    rfl
  next hnone => cases h.symm.trans hnone

theorem insert_of_new (h : s.position? d.path = none) :
    s.insert d = ⟨s.decls ++ [d], (d.path, s.decls.length) :: s.index, s.isIndex.push h⟩ := by
  unfold insert
  split
  next hi => cases h.symm.trans hi
  next => rfl

/-- An insertion adds nothing but what is inserted. -/
theorem mem_of_mem_insert (h : d' ∈ (s.insert d).decls) : d' = d ∨ d' ∈ s.decls := by
  cases hposition : s.position? d.path with
  | some i =>
      rw [insert_of_position? hposition] at h
      exact (List.mem_or_eq_of_mem_set h).symm
  | none =>
      rw [insert_of_new hposition, List.mem_append, List.mem_singleton] at h
      exact h.symm

theorem mem_insert_self (s : DeclSet) (d : Decl) : d ∈ (s.insert d).decls := by
  cases hposition : s.position? d.path with
  | some i =>
      rw [insert_of_position? hposition]
      exact List.mem_set (position?_lt_size hposition) d
  | none =>
      rw [insert_of_new hposition]
      exact List.mem_append_right _ (List.mem_singleton_self d)

/-- The declaration that was inserted last is found under its path. -/
theorem get?_insert_self (s : DeclSet) (d : Decl) : (s.insert d).get? d.path = some d :=
  get?_eq_some_iff.mpr ⟨mem_insert_self s d, rfl⟩

/-- An insertion adds the path of the declaration behind the others if it is new, and no path
otherwise. -/
theorem map_path_insert (s : DeclSet) (d : Decl) :
    (s.insert d).decls.map Decl.path =
      s.decls.map Decl.path ++ if (s.position? d.path).isSome then [] else [d.path] := by
  cases hposition : s.position? d.path with
  | none => simp [insert_of_new hposition]
  | some i =>
      obtain ⟨old, hold, hpath⟩ := position?_eq_some_iff.mp hposition
      obtain ⟨hi, rfl⟩ := List.getElem?_eq_some_iff.mp hold
      have hsame : (s.decls.map Decl.path).set i d.path = s.decls.map Decl.path := by
        rw [← hpath, ← List.getElem_map Decl.path (h := by simpa using hi), List.set_getElem_self]
      simp [insert_of_position? hposition, List.map_set, hsame]

theorem position?_insert_of_ne (h : d.path ≠ path) :
    (s.insert d).position? path = s.position? path := by
  cases hposition : s.position? d.path with
  | some i => rw [insert_of_position? hposition, position?, position?]
  | none =>
      rw [insert_of_new hposition, position?, List.lookup_cons, beq_eq_false_iff_ne.mpr h.symm,
        position?]

theorem getElem?_insert_of_ne (hd' : s.decls[i]? = some d') (h : d.path ≠ d'.path) :
    (s.insert d).decls[i]? = some d' := by
  cases hposition : s.position? d.path with
  | some j =>
      obtain ⟨old, hold, hpath⟩ := position?_eq_some_iff.mp hposition
      have hne : j ≠ i := by
        rintro rfl
        rw [hd'] at hold
        exact h (Option.some.inj hold ▸ hpath.symm)
      rw [insert_of_position? hposition]
      exact (List.getElem?_set_ne hne).trans hd'
  | none =>
      have hi := (List.getElem?_eq_some_iff.mp hd').1
      rw [insert_of_new hposition]
      exact (List.getElem?_append_left hi).trans hd'

theorem get?_insert_of_ne (h : d.path ≠ path) : (s.insert d).get? path = s.get? path := by
  rw [get?_eq_bind, get?_eq_bind, position?_insert_of_ne h]
  cases hposition : s.position? path with
  | none => rfl
  | some i =>
      obtain ⟨d', hd', hpath⟩ := position?_eq_some_iff.mp hposition
      rw [Option.bind_some, Option.bind_some, hd']
      exact getElem?_insert_of_ne hd' (hpath ▸ h)

/-! ## Some insertions -/

/-- The set after some insertions, one after the other. -/
def insertAll (s : DeclSet) (decls : List Decl) : DeclSet :=
  decls.foldl insert s

@[simp]
theorem insertAll_nil (s : DeclSet) : s.insertAll [] = s :=
  rfl

@[simp]
theorem insertAll_cons (s : DeclSet) (d : Decl) (decls : List Decl) :
    s.insertAll (d :: decls) = (s.insert d).insertAll decls :=
  rfl

@[simp]
theorem insertAll_append (s : DeclSet) (first later : List Decl) :
    s.insertAll (first ++ later) = (s.insertAll first).insertAll later :=
  List.foldl_append

/-- Under a path the last of the insertions there is found, or what was there before. -/
theorem get?_insertAll (s : DeclSet) (decls : List Decl) (path : TypePath) :
    (s.insertAll decls).get? path =
      ((decls.filter fun d => d.path = path).getLast?).or (s.get? path) := by
  induction decls generalizing s with
  | nil => rfl
  | cons d decls ih =>
      rw [insertAll_cons, ih]
      by_cases hpath : d.path = path
      · rw [List.filter_cons_of_pos (by simpa using hpath), List.getLast?_cons, ← hpath,
          get?_insert_self]
        cases (decls.filter fun d' => d'.path = d.path).getLast? <;> rfl
      · rw [List.filter_cons_of_neg (by simpa using hpath), get?_insert_of_ne hpath]

/-- What becomes of `before` where `decls` are inserted one after the other. -/
structure Updates (decls : List Decl) (before after : DeclSet) : Prop where
  /-- Under a path of `decls` the last declaration with this path is found. -/
  found : ∀ path, (∃ d ∈ decls, d.path = path) → ∃ first d later,
    decls = first ++ d :: later ∧ d.path = path ∧ (∀ d' ∈ later, d'.path ≠ path) ∧
      after.get? path = some d
  /-- Other paths lead to what they led to, at the same position. -/
  others : ∀ path, (∀ d ∈ decls, d.path ≠ path) →
    after.position? path = before.position? path ∧ after.get? path = before.get? path
  /-- Declarations of other paths stay at their positions. -/
  kept : ∀ (i : Nat) (d : Decl), before.decls[i]? = some d → (∀ d' ∈ decls, d'.path ≠ d.path) →
    after.decls[i]? = some d
  /-- There are no further declarations. -/
  only : ∀ d ∈ after.decls, d ∈ decls ∨ d ∈ before.decls

/-- After the last declaration with its path a declaration is found. -/
theorem Updates.cons {d : Decl} {decls : List Decl} {s after : DeclSet}
    (h : Updates decls (s.insert d) after) : Updates (d :: decls) s after where
  found path hpath := by
    by_cases hlater : ∃ d' ∈ decls, d'.path = path
    · obtain ⟨first, d', later, rfl, hd', hlast, hget⟩ := h.found path hlater
      exact ⟨d :: first, d', later, rfl, hd', hlast, hget⟩
    · have hnone : ∀ d' ∈ decls, d'.path ≠ path := by simpa using hlater
      have hd : d.path = path := by simpa [hlater] using hpath
      refine ⟨[], d, decls, rfl, hd, hnone, ?_⟩
      rw [(h.others path hnone).2, ← hd]
      exact get?_insert_self s d
  others path hpath := by
    obtain ⟨hd, hlater⟩ := List.forall_mem_cons.mp hpath
    obtain ⟨hposition, hget⟩ := h.others path hlater
    exact ⟨hposition.trans (position?_insert_of_ne hd), hget.trans (get?_insert_of_ne hd)⟩
  kept i d' hd' hpath := by
    obtain ⟨hd, hlater⟩ := List.forall_mem_cons.mp hpath
    exact h.kept i d' (getElem?_insert_of_ne hd' hd) hlater
  only d' hd' := by
    rcases h.only d' hd' with hmem | hmem
    · exact .inl (List.mem_cons_of_mem d hmem)
    · rcases mem_of_mem_insert hmem with rfl | hmem
      · exact .inl List.mem_cons_self
      · exact .inr hmem

theorem updates_insertAll (s : DeclSet) (decls : List Decl) :
    Updates decls s (s.insertAll decls) := by
  induction decls generalizing s with
  | nil =>
      refine ⟨?_, fun path _ => ⟨rfl, rfl⟩, fun i d hd _ => hd, fun d hd => .inr hd⟩
      rintro path ⟨d, hd, -⟩
      cases hd
  | cons d decls ih => exact (ih (s.insert d)).cons

end Rowsmith.DeclSet
