/-
# The order of paths

Components are ordered by their kinds, and names among themselves as texts. Paths
are compared component by component, which is the lexical order of rows of keys. So
paths that are not spelled with the same components have one order, and there is
one list in this order with given members.
-/

import Mathlib.Data.List.Sort
import Mathlib.Data.Prod.Lex
import Mathlib.Data.String.Basic
import Rowsmith.Proofs.Disk.Path

namespace Rowsmith.Disk

namespace Component

/-- What a component is ordered by: its kind, and its name if it has one. -/
def key : Component → ℕ ×ₗ String
  | normal name => toLex (3, name)
  | c => toLex (c.rank, "")

theorem key_injective : Function.Injective key := by
  intro a b hkey
  cases a <;> cases b <;> simp_all [key, rank]

theorem before_iff_key {a b : Component} : a.before b = true ↔ a.key < b.key := by
  cases a <;> cases b <;> simp [before, key, rank, Prod.Lex.toLex_lt_toLex]

end Component

namespace Path

/-- What a path is ordered by. -/
def orderKey (p : String) : List (ℕ ×ₗ String) :=
  (components p).map Component.key

theorem componentsBefore_iff {as bs : List Component} :
    componentsBefore as bs = true ↔ as.map Component.key < bs.map Component.key := by
  induction as generalizing bs with
  | nil => cases bs <;> simp [componentsBefore]
  | cons a as ih =>
      cases bs with
      | nil => simp [componentsBefore]
      | cons b bs =>
          simp [componentsBefore, ih, Component.before_iff_key, Component.key_injective.eq_iff,
            List.cons_lt_cons_iff]

theorem same_iff_orderKey {p q : String} : same p q = true ↔ orderKey p = orderKey q := by
  rw [same_iff, orderKey, orderKey, (List.map_injective_iff.mpr Component.key_injective).eq_iff]

theorem notAfter_iff {p q : String} : notAfter p q = true ↔ orderKey p ≤ orderKey q := by
  rw [notAfter, Bool.not_eq_true', ← Bool.not_eq_true, componentsBefore_iff, not_lt]
  rfl

end Path

end Rowsmith.Disk
