/-
# Clauses name no column twice

The clauses of a statement are written from payloads, name by name. A payload that was
built by setting names has each of them once, so the new values of a statement name no
column twice, and neither does its condition.
-/

import Rowsmith.Proofs.Statement.Fields
import Rowsmith.Proofs.Statement.Outcome

namespace Rowsmith

namespace Fields

open Statement

/-- Behind `head` the statement writes the new values `updates` and the condition `query`,
and neither of the two clauses has a name twice. -/
structure WritesOnce (dialect : Dialect) (head : String) (updates query : Fields)
    (s : Statement) : Prop where
  spells : Spells dialect head updates query s
  changes : updates.keys.Nodup
  conditions : query.keys.Nodup

/-- **A payload is an ordered map.** However it was built, it has one value for each name
that was set since it was last made anew: the last one, at the place where the name was
first set. A name that is set next moves no other name and changes no other value, and
the pairs of the payload make it again. So no statement that is written from it has a
name twice in its new values or twice in its condition. -/
theorem edited_is_ordered_map (edits others : List Edit) (dialect : Dialect) (text : String)
    (isColumn : String → Bool) :
    Holds (settingsOf edits) (edited edits) ∧
    (∀ name, (edited edits).get? name = none ↔ name ∉ (settingsOf edits).map Prod.fst) ∧
    (edited edits).size = ((settingsOf edits).map Prod.fst).toFinset.card ∧
    (∀ name v other, other ≠ name →
      ((edited edits).insert name v).get? other = (edited edits).get? other ∧
      ((edited edits).insert name v).keys.idxOf? other = (edited edits).keys.idxOf? other) ∧
    ofList (edited edits).toList = edited edits ∧
    (∀ s, select dialect text (edited edits) isColumn = .ok s →
      WritesOnce dialect text .empty (edited edits) s) ∧
    (∀ s, delete dialect text (edited edits) isColumn = .ok s →
      WritesOnce dialect ("delete from " ++ text) .empty (edited edits) s) ∧
    (∀ s, update dialect text (edited edits) (edited others) isColumn = .ok (some s) →
      WritesOnce dialect ("update " ++ text ++ " set ") (edited edits) (edited others) s) := by
  have hholds := holds_edited edits
  refine ⟨hholds, fun name => hholds.get?_eq_none_iff, hholds.size_eq, fun name v other hne => ?_,
    hholds.ofList_toList, fun s h => ?_, fun s h => ?_, fun s h => ?_⟩
  · exact ⟨by rw [get?_insert, if_neg hne], idxOf?_keys_insert hne⟩
  · exact ⟨(spells_of_conditional h).2, .nil, hholds.distinct⟩
  · exact ⟨(spells_of_conditional h).2, .nil, hholds.distinct⟩
  · exact ⟨(spells_of_update h).2.2.2, hholds.distinct, (holds_edited others).distinct⟩

/-- A payload that is made anew from pairs with a name twice, and then set further. -/
def errandEdits : List Edit :=
  [.set "gone" (.bool true), .collect [("b", .int32 1), ("a", .bool true), ("b", .int32 2)],
    .set "c" (.text "x"), .set "a" (.bool false)]

/-- Each name is where it was first set, with the value set last, and once in the text. -/
theorem edited_is_ordered_map_errand :
    (edited errandEdits).toList = [("b", .int32 2), ("a", .bool false), ("c", .text "x")] ∧
    (edited errandEdits).size = 3 ∧
    ("c" ≠ "b" ∧ ((edited errandEdits).insert "b" (.int32 3)).get? "c" = some (.text "x") ∧
      ((edited errandEdits).insert "b" (.int32 3)).keys.idxOf? "c" = some 2) ∧
    (∃ s, select .mySql "select a from t" (edited errandEdits) (["a", "b", "c"].contains ·) =
        .ok s ∧ s.sql = "select a from t where b=? and a=? and c=?" ∧
      WritesOnce .mySql "select a from t" .empty (edited errandEdits) s) ∧
    (∃ s, delete .mySql "t" (edited errandEdits) (["a", "b", "c"].contains ·) = .ok s ∧
      s.sql = "delete from t where b=? and a=? and c=?" ∧
      WritesOnce .mySql ("delete from " ++ "t") .empty (edited errandEdits) s) ∧
    (∃ s, update .postgres "t" (edited errandEdits) (edited [.set "a" (.int64 7)])
        (["a", "b", "c"].contains ·) = .ok (some s) ∧
      s.sql = "update t set b=$1, a=$2, c=$3 where a=$4" ∧
      WritesOnce .postgres ("update " ++ "t" ++ " set ") (edited errandEdits)
        (edited [.set "a" (.int64 7)]) s) := by
  obtain ⟨-, -, hsize, hother, -, -, -, hupdate⟩ := edited_is_ordered_map errandEdits
    [.set "a" (.int64 7)] .postgres "t" (["a", "b", "c"].contains ·)
  obtain ⟨-, -, -, -, -, -, hdelete, -⟩ := edited_is_ordered_map errandEdits [] .mySql "t"
    (["a", "b", "c"].contains ·)
  obtain ⟨-, -, -, -, -, hselect, -, -⟩ := edited_is_ordered_map errandEdits [] .mySql
    "select a from t" (["a", "b", "c"].contains ·)
  have hkept := hother "b" (.int32 3) "c" (by decide)
  refine ⟨by decide, hsize.trans (by decide), ⟨by decide, hkept.1.trans (by decide),
    hkept.2.trans (by decide)⟩, ⟨_, rfl, by decide, hselect _ rfl⟩,
    ⟨_, rfl, by decide, hdelete _ rfl⟩, ⟨_, rfl, by decide, hupdate _ rfl⟩⟩

end Fields

end Rowsmith
