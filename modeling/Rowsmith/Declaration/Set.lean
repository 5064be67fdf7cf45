/-
# Sets of declarations

The declarations of one run in the order of their discovery, one for each path. A declaration of a
path that is known takes the place of the earlier one. An index of positions goes with the list, so
that a path is looked up without going through the declarations.
-/

import Rowsmith.Declaration.Basic

namespace Rowsmith

/-- `index` leads a path to a position exactly when the declaration there has this path. -/
def IsIndexOf (index : List (TypePath × Nat)) (decls : List Decl) : Prop :=
  ∀ path i, index.lookup path = some i ↔ ∃ d, decls[i]? = some d ∧ d.path = path

namespace IsIndexOf

variable {index : List (TypePath × Nat)} {decls : List Decl} {d : Decl} {i : Nat}

theorem empty : IsIndexOf [] [] :=
  fun path i => by simp

/-- A declaration may take the place of the one at its path: no path changes its position. -/
theorem replace (h : IsIndexOf index decls) (hi : index.lookup d.path = some i) :
    IsIndexOf index (decls.set i d) := by
  obtain ⟨old, hold, hpath⟩ := (h d.path i).mp hi
  have hlt : i < decls.length := (List.getElem?_eq_some_iff.mp hold).1
  intro path j
  rw [h path j]
  by_cases hij : i = j
  · subst hij
    rw [hold, List.getElem?_set_self hlt]
    simp [hpath]
  · rw [List.getElem?_set_ne hij]

/-- A declaration with a new path may go behind the others, and the index leads its path there. -/
theorem push (h : IsIndexOf index decls) (hnew : index.lookup d.path = none) :
    IsIndexOf ((d.path, decls.length) :: index) (decls ++ [d]) := by
  intro path j
  have hlast : (∃ d', (decls ++ [d])[j]? = some d' ∧ d'.path = path) ↔
      index.lookup path = some j ∨ decls.length = j ∧ d.path = path := by
    rw [h path j, List.getElem?_append]
    split
    next hlt => simp [Nat.ne_of_gt hlt]
    next hge =>
      rw [List.getElem?_eq_none (Nat.le_of_not_lt hge), List.getElem?_singleton]
      split <;> simp <;> omega
  rw [hlast]
  by_cases hpath : path = d.path
  · rw [hpath, hnew, List.lookup_cons_self]
    simp
  · rw [List.lookup_cons, beq_eq_false_iff_ne.mpr hpath]
    simp [Ne.symm hpath]

end IsIndexOf

/-- Declarations in the order of their discovery, and where in it the path of each is found. -/
structure DeclSet where
  decls : List Decl
  /-- The positions by path. -/
  index : List (TypePath × Nat)
  isIndex : IsIndexOf index decls
  deriving DecidableEq, Repr

namespace DeclSet

/-- The set without declarations. -/
def empty : DeclSet :=
  ⟨[], [], .empty⟩

instance : EmptyCollection DeclSet where
  emptyCollection := empty

/-- The declarations in order. -/
def toList (s : DeclSet) : List Decl :=
  s.decls

/-- Number of declarations. -/
def size (s : DeclSet) : Nat :=
  s.decls.length

/-- Whether there is no declaration. -/
def isEmpty (s : DeclSet) : Bool :=
  s.decls.isEmpty

/-- Position of the declaration at `path`. -/
def position? (s : DeclSet) (path : TypePath) : Option Nat :=
  s.index.lookup path

theorem position?_lt_size {s : DeclSet} {path : TypePath} {i : Nat}
    (h : s.position? path = some i) : i < s.decls.length := by
  obtain ⟨d, hd, -⟩ := (s.isIndex path i).mp h
  exact (List.getElem?_eq_some_iff.mp hd).1

/-- The declaration at `path`. -/
def get? (s : DeclSet) (path : TypePath) : Option Decl :=
  match h : s.position? path with
  | some i => some (s.decls.get ⟨i, position?_lt_size h⟩)
  | none => none

/-- The set with `d` in it: in the place of the declaration at the same path, or at the end. -/
def insert (s : DeclSet) (d : Decl) : DeclSet :=
  match h : s.position? d.path with
  | some i => ⟨s.decls.set i d, s.index, s.isIndex.replace h⟩
  | none => ⟨s.decls ++ [d], (d.path, s.decls.length) :: s.index, s.isIndex.push h⟩

/-- The declarations with the bare name `name`, in order. -/
def named (s : DeclSet) (name : String) : List Decl :=
  s.decls.filter fun d => d.name = name

end DeclSet

end Rowsmith
