/-
# Members of ordered lists

Ordering a list keeps its members and lists each of them once.
-/

import Mathlib.Data.String.Basic
import Rowsmith.Text.Ordered

namespace Rowsmith.Text

theorem mem_insertOrdered {s t : String} {ts : List String} :
    s ∈ insertOrdered t ts ↔ s = t ∨ s ∈ ts := by
  induction ts with
  | nil => simp [insertOrdered]
  | cons u us ih =>
      unfold insertOrdered
      split
      · exact List.mem_cons
      · split
        next heq => simp [heq]
        next => rw [List.mem_cons, ih, List.mem_cons, or_left_comm]

@[simp]
theorem mem_ordered {s : String} {ss : List String} : s ∈ ordered ss ↔ s ∈ ss := by
  induction ss with
  | nil => rfl
  | cons t ts ih => rw [ordered, List.foldr_cons, ← ordered, mem_insertOrdered, ih, List.mem_cons]

theorem pairwise_insertOrdered {s : String} {ts : List String} (h : ts.Pairwise (· < ·)) :
    (insertOrdered s ts).Pairwise (· < ·) := by
  induction ts with
  | nil => exact List.pairwise_singleton _ s
  | cons t ts ih =>
      have hrest := List.pairwise_cons.mp h
      unfold insertOrdered
      split
      next hlt =>
        refine List.pairwise_cons.mpr ⟨fun u hu => ?_, h⟩
        rcases List.mem_cons.mp hu with rfl | hu
        · exact hlt
        · exact lt_trans hlt (hrest.1 u hu)
      next hge =>
        split
        next => exact h
        next hne =>
          refine List.pairwise_cons.mpr ⟨fun u hu => ?_, ih hrest.2⟩
          rcases mem_insertOrdered.mp hu with rfl | hu
          · exact lt_of_le_of_ne (not_lt.mp hge) (Ne.symm hne)
          · exact hrest.1 u hu

theorem pairwise_ordered (ss : List String) : (ordered ss).Pairwise (· < ·) := by
  induction ss with
  | nil => exact List.Pairwise.nil
  | cons s ss ih => exact pairwise_insertOrdered ih

theorem nodup_ordered (ss : List String) : (ordered ss).Nodup :=
  (pairwise_ordered ss).imp fun h => ne_of_lt h

end Rowsmith.Text
