/-
# Reading a table definition back

The statement that creates a table has one line for each column. No part of such
a line has a line break in it: names are snake-case names, and a column type that
a field asks for has been checked word by word. So the columns that the
statement defines can be read off its lines.
-/

import Rowsmith.Proofs.Statement.Reading
import Rowsmith.Proofs.Table.Compile
import Rowsmith.Proofs.Table.TypeText

namespace Rowsmith

open Statement Text

/-! ## Column types -/

theorem not_mem_toDigits (n : Nat) : '\n' ∉ Nat.toDigits 10 n := by
  intro hmem
  have hdigit := Nat.isDigit_of_mem_toDigits (by omega) (by omega) hmem
  exact absurd hdigit (by decide)

theorem ColumnType.not_mem_render {textBound : Nat} {kind : Primitive} {asked : Option String}
    {type : ColumnType} (h : ColumnType.ofKind textBound kind asked = .ok type)
    (dialect : Dialect) : '\n' ∉ (type.render dialect).toList := by
  cases asked with
  | some text =>
      cases hparse : ExplicitType.parse text with
      | error e =>
          rw [ofKind, hparse] at h
          cases h
      | ok t =>
          rw [ofKind, hparse] at h
          cases h
          intro hmem
          obtain ⟨hplain, -⟩ := ExplicitType.isPlain_of_parse hparse
          exact absurd (hplain.mem_display hmem) (by decide)
  | none =>
      cases h
      cases kind <;> cases dialect <;> simp [render, not_mem_toDigits]

/-! ## Lines -/

/-- The columns that the definition of a table defines: each has an indented
line, and so has the primary key, which comes last. -/
def definedColumns (sql : String) : List String :=
  ((sql.toList.splitOn '\n').filter fun line => line.head? = some ' ').dropLast.map fun line =>
    String.ofList (before ' ' (line.drop 2))

/-- Entries that are separated by commas and line breaks are lines, all but the
last with a comma at the end. -/
theorem intercalate_comma_line (lines : List (List Char)) (last : List Char) :
    [',', '\n'].intercalate (lines ++ [last]) =
      ['\n'].intercalate (lines.map (· ++ [',']) ++ [last]) := by
  induction lines with
  | nil => simp
  | cons line lines ih =>
      rw [List.cons_append, List.intercalate_cons_of_ne_nil (by simp), ih, List.map_cons,
        List.cons_append, List.intercalate_cons_of_ne_nil (by simp)]
      simp

namespace Table

/-- What follows the type in the line of a column. -/
def columnEnding (dialect : Dialect) : (isIdentity : Bool) → List Char
  | true => match dialect with
    | .mySql => " NOT NULL AUTO_INCREMENT".toList
    | .postgres => " GENERATED BY DEFAULT AS IDENTITY".toList
  | false => " NOT NULL".toList

/-- A column line is indented, its first word is the name, and the type and one of two endings
follow. -/
theorem toList_columnLine (dialect : Dialect) (c : Column) :
    (columnLine dialect c).toList =
      ' ' :: ' ' :: (c.name.toList ++ ' ' ::
        ((c.type.render dialect).toList ++ columnEnding dialect c.autoIncrement)) := by
  unfold columnLine
  cases c.autoIncrement with
  | true =>
      cases dialect with
      | mySql =>
          simp only [toString_text, if_true, String.toList_append, List.append_assoc]
          rfl
      | postgres =>
          simp only [toString_text, if_true, String.toList_append, List.append_assoc]
          rfl
  | false =>
      simp only [toString_text, Bool.false_eq_true, if_false, String.toList_append,
        List.append_assoc]
      rfl

theorem not_mem_columnLine {dialect : Dialect} {c : Column} (hname : '\n' ∉ c.name.toList)
    (htype : '\n' ∉ (c.type.render dialect).toList) :
    '\n' ∉ (columnLine dialect c).toList := by
  have hending : ∀ isIdentity, '\n' ∉ columnEnding dialect isIdentity := by
    cases dialect <;> decide
  simp [toList_columnLine, hname, htype, hending]

/-- The lines of a definition between the first and the last, without the commas
between them. -/
def bodyLines (t : Table) (dialect : Dialect) : List (List Char) :=
  t.columns.map (fun c => (columnLine dialect c).toList ++ [',']) ++
    [s!"  PRIMARY KEY ({t.identityName})".toList]

theorem toList_createSql (t : Table) (dialect : Dialect) :
    (t.createSql dialect).toList =
      s!"CREATE TABLE {t.name} (".toList ++ '\n' ::
        (['\n'].intercalate (bodyLines t dialect) ++ '\n' :: (");".toList ++ '\n' :: [])) := by
  have hbody : (",\n".intercalate (t.columns.map (columnLine dialect) ++
      [s!"  PRIMARY KEY ({t.identityName})"])).toList =
      ['\n'].intercalate (bodyLines t dialect) := by
    rw [String.toList_intercalate, List.map_append, List.map_singleton, List.map_map, bodyLines]
    have hlines := intercalate_comma_line
      (t.columns.map (String.toList ∘ columnLine dialect))
      s!"  PRIMARY KEY ({t.identityName})".toList
    rw [List.map_map] at hlines
    exact hlines
  unfold createSql
  simp only [String.toList_append, hbody]
  simp

end Table

namespace Table.IsTableOf

variable {decls : DeclSet} {textBound k : Nat} {entity : Decl} {fields : List FieldDecl}
  {t : Table}

theorem not_mem_of_mem_bodyLines (h : IsTableOf decls textBound entity fields k t)
    {dialect : Dialect} {line : List Char} (hline : line ∈ bodyLines t dialect) :
    '\n' ∉ line := by
  rw [bodyLines, List.mem_append, List.mem_singleton] at hline
  rcases hline with hline | rfl
  · obtain ⟨c, hc, rfl⟩ := List.mem_map.mp hline
    obtain ⟨i, hi⟩ := List.mem_iff_getElem?.mp hc
    obtain ⟨f, -, hcolumn⟩ := h.exists_field hi
    have hin := not_mem_columnLine ((h.isName_column hc).not_mem (by decide))
      (ColumnType.not_mem_render hcolumn.type dialect)
    simpa using hin
  · simp [h.isName_identityName.not_mem (c := '\n') (by decide)]

/-- The lines of the definition of a compiled table. -/
theorem splitOn_createSql (h : IsTableOf decls textBound entity fields k t) (dialect : Dialect) :
    (t.createSql dialect).toList.splitOn '\n' =
      s!"CREATE TABLE {t.name} (".toList :: (bodyLines t dialect ++ [");".toList, []]) := by
  have hhead : '\n' ∉ s!"CREATE TABLE {t.name} (".toList := by
    simp [h.isName_name.not_mem (c := '\n') (by decide)]
  rw [toList_createSql, List.splitOn_append_cons_self_of_not_mem hhead,
    List.splitOn_append_cons_self,
    List.splitOn_intercalate '\n' (fun line => h.not_mem_of_mem_bodyLines) (by simp [bodyLines]),
    List.splitOn_append_cons_self_of_not_mem (by decide), List.splitOn_nil]

/-- The definition of a compiled table names its columns in order. -/
theorem definedColumns_createSql (h : IsTableOf decls textBound entity fields k t)
    (dialect : Dialect) : definedColumns (t.createSql dialect) = t.columns.map Column.name := by
  have hbody : ∀ line ∈ bodyLines t dialect, line.head? = some ' ' := by
    intro line hline
    rw [bodyLines, List.mem_append, List.mem_singleton] at hline
    rcases hline with hline | rfl
    · obtain ⟨c, -, rfl⟩ := List.mem_map.mp hline
      simp [toList_columnLine]
    · simp
  have hkept : (bodyLines t dialect).filter (fun line => line.head? = some ' ') =
      bodyLines t dialect :=
    List.filter_eq_self.mpr fun line hline => by simpa using hbody line hline
  have hdropped : [");".toList, []].filter (fun line => line.head? = some ' ') = [] := by
    decide
  rw [definedColumns, h.splitOn_createSql, List.filter_cons_of_neg (by simp),
    List.filter_append, hkept, hdropped, List.append_nil, bodyLines, List.dropLast_concat,
    List.map_map]
  refine List.map_congr_left fun c hc => ?_
  have hblank := (h.isName_column hc).not_mem (c := ' ') (by decide)
  rw [Function.comp_apply, toList_columnLine, List.cons_append, List.cons_append,
    List.drop_succ_cons, List.drop_succ_cons, List.drop_zero, List.append_assoc, List.cons_append,
    before_append_cons hblank, String.ofList_toList]

end Table.IsTableOf

end Rowsmith
