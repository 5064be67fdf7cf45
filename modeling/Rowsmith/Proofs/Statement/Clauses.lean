/-
# Clauses of a statement

The text of a clause depends on the names in it and on the number of
placeholders before it, and on nothing else. `assigned` gives that text without
the counter that the builders thread through their loops.

A second reading of the same statement keeps every value at its place: a row of
`Piece`s is fixed text and places for values, and writing the pieces numbers the
places from left to right. Both readings agree, so the placeholder that is
written at a place is the placeholder of the value at that place.
-/

import Rowsmith.Statement.Build

namespace Rowsmith

namespace Statement

/-- The assignment of each name, with placeholders from position `first` on. -/
def assigned (dialect : Dialect) (first : Nat) (names : List String) : List String :=
  (names.zipIdx first).map fun n => n.1 ++ "=" ++ dialect.placeholder n.2

/-- The condition on `names`, with placeholders from position `first` on;
nothing for no name. -/
def whereClause (dialect : Dialect) (first : Nat) (names : List String) : String :=
  if names = [] then "" else " where " ++ " and ".intercalate (assigned dialect first names)

/-! ## The text of a clause -/

@[simp]
theorem assigned_nil (dialect : Dialect) (first : Nat) : assigned dialect first [] = [] := rfl

@[simp]
theorem assigned_cons (dialect : Dialect) (first : Nat) (name : String) (names : List String) :
    assigned dialect first (name :: names) =
      (name ++ "=" ++ dialect.placeholder first) :: assigned dialect (first + 1) names := rfl

/-- The loop over the names writes the assignments with `sep` between each two
and hands out one placeholder for each name. -/
theorem assignments_eq (sep : String) (names : List String) (ph : Placeholders) :
    assignments sep names ph =
      (sep.intercalate (assigned ph.dialect ph.count names),
        { ph with count := ph.count + names.length }) := by
  induction names generalizing ph with
  | nil => simp [assignments]
  | cons name names ih =>
      cases names with
      | nil => simp [assignments, Placeholders.next]
      | cons second names =>
          simp [assignments, Placeholders.next, ih, Nat.add_assoc, Nat.add_comm,
            String.append_assoc]

theorem condition_eq (query : Fields) (ph : Placeholders) :
    condition query ph = whereClause ph.dialect ph.count query.keys := by
  cases hentries : query.entries with
  | nil => simp [condition, whereClause, Fields.isEmpty, Fields.keys, hentries]
  | cons entry entries =>
      simp [condition, whereClause, Fields.isEmpty, Fields.keys, hentries, assignments_eq]

/-! ## Values at their places -/

/-- A piece of a statement. -/
inductive Piece where
  | text (s : String)
  /-- The place of a value. -/
  | place (v : Value)

/-- Writes pieces, where `count` places come before them. -/
def writePieces (dialect : Dialect) (count : Nat) : List Piece → String
  | [] => ""
  | .text s :: pieces => s ++ writePieces dialect count pieces
  | .place _ :: pieces => dialect.placeholder count ++ writePieces dialect (count + 1) pieces

/-- The values of pieces, in the order of their places. -/
def placedValues : List Piece → List Value
  | [] => []
  | .text _ :: pieces => placedValues pieces
  | .place v :: pieces => v :: placedValues pieces

/-- Each name with the place of its value, and `sep` between each two. -/
def fieldPieces (sep : String) : List (String × Value) → List Piece
  | [] => []
  | [(name, v)] => [.text name, .text "=", .place v]
  | (name, v) :: rest => [.text name, .text "=", .place v, .text sep] ++ fieldPieces sep rest

/-- The condition with its values at their places. -/
def wherePieces : List (String × Value) → List Piece
  | [] => []
  | entries => .text " where " :: fieldPieces " and " entries

theorem placedValues_append (first second : List Piece) :
    placedValues (first ++ second) = placedValues first ++ placedValues second := by
  induction first with
  | nil => rfl
  | cons piece first ih =>
      cases piece with
      | text s => exact ih
      | place v => simp [placedValues, ih]

/-- Pieces that follow others go on with the numbering. -/
theorem writePieces_append (dialect : Dialect) (count : Nat) (first second : List Piece) :
    writePieces dialect count (first ++ second) =
      writePieces dialect count first ++
        writePieces dialect (count + (placedValues first).length) second := by
  induction first generalizing count with
  | nil => simp [writePieces, placedValues]
  | cons piece first ih =>
      cases piece with
      | text s => simp [writePieces, placedValues, ih, String.append_assoc]
      | place v =>
          simp [writePieces, placedValues, ih, String.append_assoc, Nat.add_assoc, Nat.add_comm]

theorem placedValues_fieldPieces (sep : String) (entries : List (String × Value)) :
    placedValues (fieldPieces sep entries) = entries.map Prod.snd := by
  induction entries with
  | nil => rfl
  | cons entry entries ih =>
      cases entries with
      | nil => rfl
      | cons second entries => simpa [fieldPieces, placedValues] using ih

theorem writePieces_fieldPieces (dialect : Dialect) (count : Nat) (sep : String)
    (entries : List (String × Value)) :
    writePieces dialect count (fieldPieces sep entries) =
      sep.intercalate (assigned dialect count (entries.map Prod.fst)) := by
  induction entries generalizing count with
  | nil => simp [fieldPieces, writePieces]
  | cons entry entries ih =>
      cases entries with
      | nil => simp [fieldPieces, writePieces, String.append_assoc]
      | cons second entries =>
          simp only [List.map_cons] at ih
          simp [fieldPieces, writePieces, ih, String.append_assoc]

theorem placedValues_wherePieces (entries : List (String × Value)) :
    placedValues (wherePieces entries) = entries.map Prod.snd := by
  cases entries with
  | nil => rfl
  | cons entry entries => exact placedValues_fieldPieces " and " (entry :: entries)

theorem writePieces_wherePieces (dialect : Dialect) (count : Nat)
    (entries : List (String × Value)) :
    writePieces dialect count (wherePieces entries) =
      whereClause dialect count (entries.map Prod.fst) := by
  cases entries with
  | nil => rfl
  | cons entry entries =>
      simp only [wherePieces, writePieces, writePieces_fieldPieces, whereClause, List.map_cons,
        reduceCtorEq, if_false]

end Statement

end Rowsmith
