/-
# What a table definition says

The statement that creates a table is written line by line, and the type in a
column line may be any words that a field asks for, `NOT NULL AUTO_INCREMENT`
among them. Nothing is lost all the same: the name ends at the first blank, and
the last word of the line tells the identity from the other columns, so what
stands between the two is the type. `createSql_readable` says which lines a
definition has, and that tables with the same definition have the same name and
the same columns, as far as a definition shows them.
-/

import Rowsmith.Proofs.Table.Definition

namespace Rowsmith

open Statement Table Text

/-! ## Columns in a definition -/

/-- A column as the definition of a table shows it. -/
structure DefinedColumn where
  name : String
  type : String
  isIdentity : Bool
  deriving DecidableEq, Repr

/-- What the definition of a table shows of a column. -/
def Column.defined (dialect : Dialect) (c : Column) : DefinedColumn :=
  ⟨c.name, c.type.render dialect, c.primaryKey⟩

/-- The type that stands before either ending, and whether that is the ending of the identity. -/
def definedType? (dialect : Dialect) (cs : List Char) : Option (String × Bool) :=
  match cs.dropSuffix? (columnEnding dialect true), cs.dropSuffix? (columnEnding dialect false) with
  | some type, _ => some (String.ofList type, true)
  | none, some type => some (String.ofList type, false)
  | none, none => none

/-- The column that a line defines, if the line is one of a column. -/
def definedColumn? (dialect : Dialect) : List Char → Option DefinedColumn
  | ' ' :: ' ' :: cs => (definedType? dialect (after ' ' cs)).map fun (type, isIdentity) =>
    ⟨String.ofList (before ' ' cs), type, isIdentity⟩
  | _ => none

/-- No type that stands before the one ending makes the other ending of it. -/
theorem not_columnEnding_isSuffix (dialect : Dialect) (type : List Char) :
    ¬ columnEnding dialect true <:+ type ++ columnEnding dialect false := by
  intro hidentity
  have hordinary : columnEnding dialect false <:+ type ++ columnEnding dialect false :=
    List.suffix_append _ _
  have hshorter : (columnEnding dialect false).length ≤ (columnEnding dialect true).length := by
    cases dialect <;> decide
  have hboth := List.suffix_of_suffix_length_le hordinary hidentity hshorter
  cases dialect with
  | mySql => exact absurd hboth (by decide)
  | postgres => exact absurd hboth (by decide)

theorem dropSuffix?_append (xs suffix : List Char) :
    (xs ++ suffix).dropSuffix? suffix = some xs :=
  List.dropSuffix?_eq_some_iff.mpr ⟨suffix, rfl, by simp⟩

theorem definedType?_append (dialect : Dialect) (type : List Char) (isIdentity : Bool) :
    definedType? dialect (type ++ columnEnding dialect isIdentity) =
      some (String.ofList type, isIdentity) := by
  cases isIdentity with
  | true => rw [definedType?, dropSuffix?_append]
  | false =>
      have hnone : (type ++ columnEnding dialect false).dropSuffix? (columnEnding dialect true) =
          none := by
        apply Option.eq_none_iff_forall_ne_some.mpr
        intro rest hrest
        obtain ⟨suffix, htext, hsuffix⟩ := List.dropSuffix?_eq_some_iff.mp hrest
        apply not_columnEnding_isSuffix dialect type
        rw [← beq_iff_eq.mp hsuffix, htext]
        exact List.suffix_append _ _
      rw [definedType?, hnone, dropSuffix?_append]

/-- A column is read off its line again. -/
theorem definedColumn?_columnLine {dialect : Dialect} {c : Column} (hname : ' ' ∉ c.name.toList)
    (hauto : c.autoIncrement = c.primaryKey) :
    definedColumn? dialect (columnLine dialect c).toList = some (c.defined dialect) := by
  rw [toList_columnLine, definedColumn?, before_append_cons hname, after_append_cons hname,
    definedType?_append, hauto]
  simp [Column.defined]

/-! ## Lines of a definition -/

/-- The text is the definition of a table: a line for the table, then a line with a comma at its
end for each of the columns in order, then one for the primary key, and a line that closes the
list. -/
def IsDefinition (dialect : Dialect) (name : String) (columns : List DefinedColumn)
    (key sql : String) : Prop :=
  ∃ columnLines : List (List Char),
    sql.toList.splitOn '\n' = s!"CREATE TABLE {name} (".toList ::
      (columnLines.map (· ++ [',']) ++ [s!"  PRIMARY KEY ({key})".toList, ");".toList, []]) ∧
    columnLines.map (definedColumn? dialect) = columns.map some

/-- A text defines one table only. -/
theorem IsDefinition.unique {dialect : Dialect} {name name' key key' sql : String}
    {columns columns' : List DefinedColumn} (h : IsDefinition dialect name columns key sql)
    (h' : IsDefinition dialect name' columns' key' sql) :
    name = name' ∧ columns = columns' ∧ key = key' := by
  obtain ⟨columnLines, hlines, hcolumns⟩ := h
  obtain ⟨columnLines', hlines', hcolumns'⟩ := h'
  have hsame := hlines.symm.trans hlines'
  rw [List.cons.injEq] at hsame
  obtain ⟨hbody, hlast⟩ := List.append_inj' hsame.2 rfl
  have hname : name = name' := by
    apply String.toList_inj.mp
    simpa using hsame.1
  have hkey : key = key' := by
    apply String.toList_inj.mp
    simpa using hlast
  have hread : columnLines = columnLines' :=
    List.map_injective_iff.mpr (List.append_left_injective [',']) hbody
  rw [hread] at hcolumns
  have hcolumns : columns = columns' :=
    List.map_injective_iff.mpr (fun _ _ => Option.some.inj) (hcolumns.symm.trans hcolumns')
  exact ⟨hname, hcolumns, hkey⟩

namespace Table

theorem IsTableOf.isDefinition_createSql {decls : DeclSet} {textBound k : Nat} {entity : Decl}
    {fields : List FieldDecl} {t : Table} (h : IsTableOf decls textBound entity fields k t)
    (dialect : Dialect) :
    IsDefinition dialect t.name (t.columns.map (Column.defined dialect)) t.identityName
      (t.createSql dialect) := by
  refine ⟨t.columns.map fun c => (columnLine dialect c).toList, ?_, ?_⟩
  · rw [h.splitOn_createSql, bodyLines, List.append_assoc, List.map_map]
    rfl
  · rw [List.map_map, List.map_map]
    apply List.map_congr_left
    intro c hc
    obtain ⟨i, hi⟩ := List.mem_iff_getElem?.mp hc
    obtain ⟨f, -, hcolumn⟩ := h.exists_field hi
    have hname := (h.isName_column hc).not_mem (c := ' ') (by decide)
    exact definedColumn?_columnLine hname (hcolumn.autoIncrement.trans hcolumn.primaryKey.symm)

/-- The definition of a compiled table has a line for each field in order and then one line for
the primary key, which is the column of the identity. Compiled tables with the same definition
have the same name and, in the same order, columns with the same names and types of which the same
one is the identity. -/
theorem createSql_readable {decls : DeclSet} {textBound : Nat} {entity : Decl} {t : Table}
    (h : compile decls textBound entity = .ok t) (dialect : Dialect) :
    (∃ fields marked k identity, entity.kind = .struct fields marked ∧ IsIdentity fields k ∧
      fields[k]? = some identity ∧ t.columns.map Column.name = columnNames fields ∧
      IsDefinition dialect (snakeCase entity.name) (t.columns.map (Column.defined dialect))
        (snakeCase identity.name) (t.createSql dialect)) ∧
    ∀ decls' textBound' entity' t', compile decls' textBound' entity' = .ok t' →
      t.createSql dialect = t'.createSql dialect →
        t.name = t'.name ∧
          t.columns.map (Column.defined dialect) = t'.columns.map (Column.defined dialect) := by
  obtain ⟨fields, marked, k, hkind, htable⟩ := compile_eq_ok_iff.mp h
  have hdefinition := htable.isDefinition_createSql dialect
  constructor
  · obtain ⟨identity, c, hidentity, -, -⟩ := htable.exists_identity
    refine ⟨fields, marked, k, identity, hkind, htable.identity, hidentity,
      htable.map_name_columns, ?_⟩
    rwa [← htable.name, ← htable.identityName_eq hidentity]
  · intro decls' textBound' entity' t' h' hsql
    obtain ⟨fields', marked', k', -, htable'⟩ := compile_eq_ok_iff.mp h'
    have hdefinition' := htable'.isDefinition_createSql dialect
    rw [← hsql] at hdefinition'
    obtain ⟨hname, hcolumns, -⟩ := hdefinition.unique hdefinition'
    exact ⟨hname, hcolumns⟩

/-- An entity with a column type that reads like the line of an identity. -/
def label : Decl where
  path := ⟨"crate", "Label"⟩
  kind := .struct
    [ ⟨"id", .primitive .int64, "i64", none, false⟩,
      ⟨"mark", .primitive .text, "String", some "BIGINT NOT NULL AUTO_INCREMENT", false⟩ ] true

/-- Its table. -/
def labelTable : Table where
  entity := ⟨"crate", "Label"⟩
  name := "label"
  columns :=
    [ ⟨"id", "id", .bigInt, .int64, .direct, true, true⟩,
      ⟨"mark", "mark", .explicit ⟨"BIGINT NOT NULL AUTO_INCREMENT", none⟩, .text, .direct, false,
        false⟩ ]

/-- Another entity of which the definition shows the same. -/
def looseLabel : Decl where
  path := ⟨"crate::old", "LABEL"⟩
  kind := .struct
    [ ⟨"Id", .primitive .int64, "i64", some " BIGINT ", true⟩,
      ⟨"Mark", .primitive .int32, "i32", some "BIGINT  NOT NULL  AUTO_INCREMENT", false⟩ ] true

/-- Its table. -/
def looseLabelTable : Table where
  entity := ⟨"crate::old", "LABEL"⟩
  name := "label"
  columns :=
    [ ⟨"id", "Id", .explicit ⟨"BIGINT", none⟩, .int64, .direct, true, true⟩,
      ⟨"mark", "Mark", .explicit ⟨"BIGINT NOT NULL AUTO_INCREMENT", none⟩, .int32, .direct, false,
        false⟩ ]

theorem createSql_readable_label :
    compile .empty 255 label = .ok labelTable ∧
      compile .empty 255 looseLabel = .ok looseLabelTable ∧
      labelTable.createSql .mySql = looseLabelTable.createSql .mySql ∧
      (∃ fields marked k identity, label.kind = .struct fields marked ∧ IsIdentity fields k ∧
        fields[k]? = some identity ∧ labelTable.columns.map Column.name = columnNames fields ∧
        IsDefinition .mySql (snakeCase label.name) (labelTable.columns.map (Column.defined .mySql))
          (snakeCase identity.name) (labelTable.createSql .mySql)) ∧
      labelTable.columns.map (Column.defined .mySql) =
        [⟨"id", "BIGINT", true⟩, ⟨"mark", "BIGINT NOT NULL AUTO_INCREMENT", false⟩] ∧
      labelTable.columns.map (Column.defined .mySql) =
        looseLabelTable.columns.map (Column.defined .mySql) := by
  have hcompile : compile .empty 255 label = .ok labelTable := by decide +kernel
  have hcompile' : compile .empty 255 looseLabel = .ok looseLabelTable := by decide +kernel
  have hsql : labelTable.createSql .mySql = looseLabelTable.createSql .mySql := by decide +kernel
  obtain ⟨hdefinition, hunique⟩ := createSql_readable hcompile .mySql
  obtain ⟨-, hcolumns⟩ := hunique _ _ _ _ hcompile' hsql
  exact ⟨hcompile, hcompile', hsql, hdefinition, by decide +kernel, hcolumns⟩

end Table

end Rowsmith
