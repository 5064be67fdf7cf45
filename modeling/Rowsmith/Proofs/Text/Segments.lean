/-
# Cutting and joining texts in segments

Joining undoes cutting, and cutting undoes joining where no segment has a colon
in it. At the first occurrence of a character a text is cut in one way.
-/

import Mathlib.Data.List.Basic
import Rowsmith.Text.Segments

namespace Rowsmith.Text

/-- A text is cut at its first `stop` in one way. -/
theorem append_stop_inj {stop : Char} {xs xs' ys ys' : List Char} (h : stop ∉ xs)
    (h' : stop ∉ xs') (heq : xs ++ stop :: ys = xs' ++ stop :: ys') : xs = xs' ∧ ys = ys' := by
  induction xs generalizing xs' with
  | nil =>
      cases xs' with
      | nil => exact ⟨rfl, (List.cons.inj heq).2⟩
      | cons c xs' =>
          obtain ⟨rfl, -⟩ := List.cons.inj heq
          exact absurd List.mem_cons_self h'
  | cons c xs ih =>
      rw [List.mem_cons, not_or] at h
      cases xs' with
      | nil => exact absurd (List.cons.inj heq).1.symm h.1
      | cons c' xs' =>
          rw [List.mem_cons, not_or] at h'
          obtain ⟨rfl, htail⟩ := List.cons.inj heq
          obtain ⟨rfl, hys⟩ := ih h.2 h'.2 htail
          exact ⟨rfl, hys⟩

/-- Characters other than colons are added to the segment that is read. -/
theorem cutSegments_word {cs : List Char} (h : ':' ∉ cs) (word rest : List Char) :
    cutSegments word (cs ++ rest) = cutSegments (cs.reverse ++ word) rest := by
  induction cs generalizing word with
  | nil => rfl
  | cons c cs ih =>
      rw [List.mem_cons, not_or] at h
      rw [List.cons_append, cutSegments, ih h.2]
      · simp
      · rintro cs' rfl
        exact absurd rfl h.1

theorem cutSegments_append {cs : List Char} (h : ':' ∉ cs) (word rest : List Char) :
    cutSegments word (cs ++ ':' :: ':' :: rest) = (word.reverse ++ cs) :: cutSegments [] rest := by
  rw [cutSegments_word h, cutSegments, List.reverse_append, List.reverse_reverse]

theorem cutSegments_of_not_mem {cs : List Char} (h : ':' ∉ cs) (word : List Char) :
    cutSegments word cs = [word.reverse ++ cs] := by
  have hword := cutSegments_word h word []
  rwa [List.append_nil, cutSegments, List.reverse_append, List.reverse_reverse] at hword

theorem cutSegments_ne_nil (word cs : List Char) : cutSegments word cs ≠ [] := by
  fun_induction cutSegments word cs with
  | case1 word => simp
  | case2 word cs ih => simp
  | case3 word c cs hcolons ih => exact ih

theorem intercalate_cutSegments (word cs : List Char) :
    [':', ':'].intercalate (cutSegments word cs) = word.reverse ++ cs := by
  fun_induction cutSegments word cs with
  | case1 word => simp
  | case2 word cs ih =>
      rw [List.intercalate_cons_of_ne_nil (cutSegments_ne_nil [] cs), ih]
      simp
  | case3 word c cs hcolons ih => simp [ih]

theorem segments_ne_nil (path : String) : segments path ≠ [] := by
  simpa [segments] using cutSegments_ne_nil [] path.toList

theorem joinSegments_segments (path : String) : joinSegments (segments path) = path := by
  apply String.toList_inj.mp
  rw [joinSegments, segments, String.toList_intercalate, List.map_map]
  have hlists : (cutSegments [] path.toList).map (String.toList ∘ String.ofList) =
      cutSegments [] path.toList := by
    simp
  rw [hlists]
  exact intercalate_cutSegments [] path.toList

theorem joinSegments_concat {names : List String} (h : names ≠ []) (name : String) :
    joinSegments (names ++ [name]) = joinSegments names ++ "::" ++ name := by
  rw [joinSegments, String.intercalate_append_of_ne_nil h (by simp), String.intercalate_singleton]
  rfl

theorem length_joinSegments (first : String) (names : List String) :
    (joinSegments (first :: names)).length =
      first.length + (names.flatMap fun name => ':' :: ':' :: name.toList).length := by
  induction names generalizing first with
  | nil => simp [joinSegments]
  | cons name names ih =>
      have hjoin : joinSegments (first :: name :: names) =
          first ++ "::" ++ joinSegments (name :: names) := by
        simp [joinSegments, String.intercalate_cons_cons]
      have htwo : "::".length = 2 := by decide +kernel
      rw [hjoin, String.length_append, String.length_append, ih, htwo, List.flatMap_cons]
      simp only [List.length_append, List.length_cons, String.length_toList]
      omega

theorem segments_joinSegments {names : List String} (hne : names ≠ [])
    (h : ∀ n ∈ names, ':' ∉ n.toList) : segments (joinSegments names) = names := by
  induction names with
  | nil => exact absurd rfl hne
  | cons name names ih =>
      have hname := h name List.mem_cons_self
      cases names with
      | nil => simp [segments, joinSegments, cutSegments_of_not_mem hname]
      | cons next rest =>
          have hrest := ih (by simp) fun n hn => h n (List.mem_cons_of_mem _ hn)
          rw [segments] at hrest
          rw [joinSegments, String.intercalate_cons_of_ne_nil (by simp), ← joinSegments, segments,
            String.toList_append, String.toList_append, List.append_assoc]
          show ((cutSegments [] (name.toList ++ ':' :: ':' ::
            (joinSegments (next :: rest)).toList)).map String.ofList) = _
          rw [cutSegments_append hname, List.map_cons, hrest]
          simp

end Rowsmith.Text
