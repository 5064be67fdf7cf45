/-
# Names without quotes

The names of tables and columns are written into statements without quotes. A name is read
back as the same name only if it starts with a letter or an underscore, is made of letters,
digits and underscores, and is no reserved word. Nothing checks that: snake case drops the
underscores at the start of a name, so that it may start with a digit or be empty, and
`user` or `order` are reserved. `bareNames_iff` says for which entities all names that the
statements have are such names.
-/

import Rowsmith.Proofs.Code.Identifiers
import Rowsmith.Proofs.Table.Definition
import Rowsmith.Proofs.Text.Letters

namespace Rowsmith

open Text

namespace Statement

/-! ## Reading the names in a statement -/

/-- The table that a table definition or an insertion names: its third word. -/
def writtenTable (sql : String) : String :=
  String.ofList (before ' ' (afterWords 2 sql.toList))

/-- The table that a selection names: its last word. -/
def selectedTable (sql : String) : String :=
  String.ofList (before ' ' sql.toList.reverse).reverse

/-- The column that a selected expression is about. -/
def expressionColumn (expression : String) : String :=
  match expression.toList with
  | '(' :: cs => String.ofList (before ' ' cs)
  | 'r' :: 't' :: 'r' :: 'i' :: 'm' :: '(' :: cs => String.ofList (before ')' cs)
  | _ => expression

/-- The columns that a selection names. -/
def selectedColumns (sql : String) : List String :=
  (selectedExpressions sql).map expressionColumn

theorem writtenTable_eq {sql table : String} {first second rest : List Char}
    (hfirst : ' ' ∉ first) (hsecond : ' ' ∉ second) (htable : IsName table)
    (h : sql.toList = first ++ ' ' :: (second ++ ' ' :: (table.toList ++ ' ' :: rest))) :
    writtenTable sql = table := by
  rw [writtenTable, h, afterWords_append_cons 1 hfirst, afterWords_append_cons 0 hsecond,
    afterWords, before_append_cons (htable.not_mem (by decide)), String.ofList_toList]

theorem writtenTable_createSql {t : Table} (htable : IsName t.name) (dialect : Dialect) :
    writtenTable (t.createSql dialect) = t.name := by
  have htext : (t.createSql dialect).toList =
      "CREATE".toList ++ ' ' :: ("TABLE".toList ++ ' ' :: (t.name.toList ++ ' ' :: ('(' :: '\n' ::
        (['\n'].intercalate (t.bodyLines dialect) ++ '\n' :: (");".toList ++ ['\n']))))) := by
    rw [Table.toList_createSql]
    simp
  exact writtenTable_eq (by decide) (by decide) htable htext

theorem writtenTable_insertSql (dialect : Dialect) {table : String} (htable : IsName table)
    (columns : List String) (identity : String) :
    writtenTable (insertSql dialect table columns identity) = table := by
  have htext : ∃ rest, (insertSql dialect table columns identity).toList =
      "insert".toList ++ ' ' :: ("into".toList ++ ' ' :: (table.toList ++ ' ' :: rest)) := by
    cases dialect <;> cases columns <;> exact ⟨_, by simp [insertSql]; rfl⟩
  obtain ⟨rest, hrest⟩ := htext
  exact writtenTable_eq (by decide) (by decide) htable hrest

theorem selectedTable_selectSql {table : String} (htable : IsName table)
    (columns : List (String × Projection)) :
    selectedTable (selectSql table columns) = table := by
  have htext : ∃ front, (selectSql table columns).toList.reverse =
      table.toList.reverse ++ ' ' :: front := ⟨_, by simp [selectSql]; rfl⟩
  obtain ⟨front, hfront⟩ := htext
  have hblank : ' ' ∉ table.toList.reverse := by
    simpa using htable.not_mem (c := ' ') (by decide)
  rw [selectedTable, hfront, before_append_cons hblank, List.reverse_reverse,
    String.ofList_toList]

/-- An expression is about the column that it was made from. -/
theorem expressionColumn_render {name : String} (h : IsName name) (p : Projection) :
    expressionColumn (p.render name) = name := by
  have hblank := h.not_mem (c := ' ') (by decide)
  have hopen := h.not_mem (c := '(') (by decide)
  have hclose := h.not_mem (c := ')') (by decide)
  cases p with
  | plain =>
      unfold expressionColumn
      split
      next heq => exact absurd (heq ▸ by simp) hopen
      next heq => exact absurd (heq ▸ by simp) hopen
      next => rfl
  | bool =>
      have htext : (Projection.bool.render name).toList =
          '(' :: (name.toList ++ ' ' :: "= '1')".toList) := by
        simp [Projection.render]
      rw [expressionColumn, htext]
      simp only [before_append_cons hblank, String.ofList_toList]
  | trimmed =>
      have htext : (Projection.trimmed.render name).toList =
          'r' :: 't' :: 'r' :: 'i' :: 'm' :: '(' :: (name.toList ++ ')' :: []) := by
        simp [Projection.render]
      rw [expressionColumn, htext]
      simp only [before_append_cons hclose, String.ofList_toList]

theorem selectedColumns_selectSql {table : String} {columns : List (String × Projection)}
    (htable : IsName table) (hcolumns : columns ≠ []) (hnames : ∀ c ∈ columns, IsName c.1) :
    selectedColumns (selectSql table columns) = columns.map Prod.fst := by
  rw [selectedColumns, selectedExpressions_selectSql htable hcolumns hnames, List.map_map]
  exact List.map_congr_left fun c hc => expressionColumn_render (hnames c hc) c.2

/-! ## Bare names -/

/-- The words that the database reserves: none of them is the name of a table or of a column
without quotes. -/
def reservedWords : List String :=
  [ "all", "analyse", "analyze", "and", "any", "array", "as", "asc", "asymmetric",
    "authorization", "binary", "both", "case", "cast", "check", "collate", "collation", "column",
    "concurrently", "constraint", "create", "cross", "current_catalog", "current_date",
    "current_role", "current_schema", "current_time", "current_timestamp", "current_user",
    "default", "deferrable", "desc", "distinct", "do", "else", "end", "except", "false", "fetch",
    "for", "foreign", "freeze", "from", "full", "grant", "group", "having", "ilike", "in",
    "initially", "inner", "intersect", "into", "is", "isnull", "join", "lateral", "leading",
    "left", "like", "limit", "localtime", "localtimestamp", "natural", "not", "notnull", "null",
    "offset", "on", "only", "or", "order", "outer", "overlaps", "placing", "primary",
    "references", "returning", "right", "select", "session_user", "similar", "some", "symmetric",
    "system_user", "table", "tablesample", "then", "to", "trailing", "true", "union", "unique",
    "user", "using", "variadic", "verbose", "when", "where", "window", "with" ]

/-- A name that may be written without quotes: it is made of letters, digits and underscores,
starts with a letter or an underscore, and is not reserved. -/
structure IsBareName (s : String) : Prop where
  word : IsWordName s
  start : ∃ c, s.toList.head? = some c ∧ isNameStart c = true
  unreserved : s ∉ reservedWords

/-- A name of a source text whose snake-case form may be written without quotes: its first
letter or number is a letter, it has no dotted capital I, and the form is not reserved. -/
structure HasBareForm (name : String) : Prop where
  start : ∃ c, name.toList.find? isAlphanumeric = some c ∧ isNameStart c = true
  undotted : dottedI ∉ name.toList
  unreserved : snakeCase name ∉ reservedWords

instance (name : String) : Decidable (HasBareForm name) :=
  decidable_of_iff
    ((name.toList.find? isAlphanumeric).any isNameStart = true ∧ dottedI ∉ name.toList ∧
      snakeCase name ∉ reservedWords)
    ⟨fun ⟨hstart, hundotted, hunreserved⟩ =>
      ⟨(Option.any_eq_true _ _).mp hstart, hundotted, hunreserved⟩,
    fun ⟨hstart, hundotted, hunreserved⟩ =>
      ⟨(Option.any_eq_true _ _).mpr hstart, hundotted, hunreserved⟩⟩

theorem isBareName_snakeCase_iff {name : String} (h : IsWord name) :
    IsBareName (snakeCase name) ↔ HasBareForm name := by
  have hword := isWord_snakeCase_iff h.isNameContinue
  have hparts := isNameContinue_of_mem_snakeCase h.isNameContinue
  constructor
  · rintro ⟨⟨-, hpart⟩, hstart, hunreserved⟩
    have hform : IsWord (snakeCase name) :=
      isWord_iff.mpr ⟨hstart, fun c hc => hparts c (List.mem_of_mem_tail hc)⟩
    exact ⟨hword.mp hform, alphanumeric_snakeCase_iff.mp hpart, hunreserved⟩
  · rintro ⟨hstart, hundotted, hunreserved⟩
    obtain ⟨⟨c, hhead, hc⟩, -⟩ := isWord_iff.mp (hword.mpr hstart)
    refine ⟨⟨?_, alphanumeric_snakeCase_iff.mpr hundotted⟩, ⟨c, hhead, hc⟩, hunreserved⟩
    intro hempty
    rw [hempty] at hhead
    cases hhead

end Statement

namespace Code

open Statement Table

/-- All names that the statements for a table have may be written without quotes. -/
structure WritesBareNames (t : Table) (o : Options) : Prop where
  definition : IsBareName (writtenTable (t.createSql o.dialect)) ∧
    ∀ name ∈ definedColumns (t.createSql o.dialect), IsBareName name
  insertion : ∃ sql,
    ((accessorFile t o).constant? "INSERT_SQL").map Constant.value = some (quoted sql) ∧
      IsBareName (writtenTable sql) ∧ ∀ name ∈ insertedColumns o.dialect sql, IsBareName name
  selection : ∃ sql,
    ((accessorFile t o).constant? "SELECT_SQL").map Constant.value = some (quoted sql) ∧
      IsBareName (selectedTable sql) ∧ ∀ name ∈ selectedColumns sql, IsBareName name

/-- The statements for a compiled table have the names of the table and of its columns. -/
theorem writesBareNames_iff_names {decls : DeclSet} {textBound k : Nat} {entity : Decl}
    {fields : List FieldDecl} {t : Table} (o : Options)
    (h : IsTableOf decls textBound entity fields k t) :
    WritesBareNames t o ↔ IsBareName t.name ∧ ∀ c ∈ t.columns, IsBareName c.name := by
  have htable := h.isName_name
  have hdefined := h.definedColumns_createSql o.dialect
  have hinserted := (h.bindsInserted o).columns
  have hselected : selectedColumns (selectSql t o) = t.columns.map Column.name := by
    rw [selectSql, selectedColumns_selectSql htable (by simpa using h.columns_ne_nil)]
    · simp
    · intro c hc
      obtain ⟨d, hd, rfl⟩ := List.mem_map.mp hc
      exact h.isName_column hd
  constructor
  · rintro ⟨⟨hname, hcolumns⟩, -, -⟩
    rw [writtenTable_createSql htable] at hname
    rw [hdefined] at hcolumns
    exact ⟨hname, by simpa using hcolumns⟩
  · rintro ⟨hname, hcolumns⟩
    refine ⟨⟨?_, ?_⟩, ⟨_, constant?_insertSql t o, ?_, ?_⟩, ⟨_, constant?_selectSql t o, ?_, ?_⟩⟩
    · rwa [writtenTable_createSql htable]
    · rw [hdefined]
      simpa using hcolumns
    · rwa [insertSql, writtenTable_insertSql o.dialect htable]
    · rw [hinserted]
      intro name hin
      obtain ⟨c, hc, rfl⟩ := List.mem_map.mp hin
      exact hcolumns c (List.mem_of_mem_eraseIdx hc)
    · rwa [selectSql, selectedTable_selectSql htable]
    · rw [hselected]
      simpa using hcolumns

/-- The statements for a collected entity have only names that may be written without quotes
exactly when the names of the entity and of its fields have such forms. -/
theorem bareNames_iff {decls : DeclSet} {textBound : Nat} {entity : Decl}
    {fields : List FieldDecl} {marked : Bool} {t : Table} (o : Options)
    (hdecls : Collected decls) (hentity : entity ∈ decls.decls)
    (hkind : entity.kind = .struct fields marked)
    (h : Table.compile decls textBound entity = .ok t) :
    WritesBareNames t o ↔ HasBareForm entity.name ∧ ∀ f ∈ fields, HasBareForm f.name := by
  obtain ⟨fields', marked', k, hkind', htable⟩ := compile_eq_ok_iff.mp h
  obtain ⟨rfl, -⟩ := DeclKind.struct.inj (hkind.symm.trans hkind')
  have hnamed := hdecls.isNamed entity hentity
  have hcolumns : (∀ c ∈ t.columns, IsBareName c.name) ↔
      ∀ f ∈ fields, IsBareName (snakeCase f.name) := by
    have hnames := htable.map_name_columns
    rw [columnNames] at hnames
    simpa using (congrArg (fun names => ∀ name ∈ names, IsBareName name) hnames)
  rw [writesBareNames_iff_names o htable, htable.name, hcolumns]
  refine and_congr (isBareName_snakeCase_iff hnamed.name) ?_
  exact forall₂_congr fun f hf =>
    isBareName_snakeCase_iff (hnamed.fields fields marked hkind f hf)

/-- A keyword of the source text need not be a reserved word of the database. -/
theorem bareNames_iff_courier :
    ∃ entity fields marked,
      Collect.source "crate::mail" courierSource .empty = .ok courierDecls ∧
      entity ∈ courierDecls.decls ∧ entity.kind = .struct fields marked ∧
      Table.compile courierDecls 255 entity = .ok courierTable ∧
      HasBareForm entity.name ∧ (∀ f ∈ fields, HasBareForm f.name) ∧
      WritesBareNames courierTable {} := by
  have hname : HasBareForm "Parcel" := by decide +kernel
  have hfields : ∀ f ∈
      [ (⟨"id", .primitive .int64, "i64", none, false⟩ : FieldDecl),
        ⟨"weight", .named ⟨"crate::mail", "Grams"⟩, "Grams", none, false⟩,
        ⟨"type", .primitive .text, "String", none, false⟩ ], HasBareForm f.name := by
    decide +kernel
  have hentity : courierDecls.decls[1] ∈ courierDecls.decls := List.getElem_mem (by decide)
  have hcompile : Table.compile courierDecls 255 courierDecls.decls[1] = .ok courierTable := by
    decide +kernel
  refine ⟨_, _, _, source_courier, hentity, rfl, hcompile, hname, hfields, ?_⟩
  exact (bareNames_iff {} (Collected.empty.source source_courier) hentity rfl hcompile).mpr
    ⟨hname, hfields⟩

/-- An entity whose name is reserved once it is in lower case, with a field whose name is
reserved and one whose column is called by a digit. -/
def user : Decl where
  path := ⟨"crate", "User"⟩
  kind := .struct
    [ ⟨"id", .primitive .int64, "i64", none, false⟩,
      ⟨"order", .primitive .text, "String", none, false⟩,
      ⟨"_1", .primitive .int32, "i32", none, false⟩ ] false

/-- Its table. -/
def userTable : Table where
  entity := ⟨"crate", "User"⟩
  name := "user"
  columns :=
    [ ⟨"id", "id", .bigInt, .int64, .direct, true, true⟩,
      ⟨"order", "order", .varChar 255, .text, .direct, false, false⟩,
      ⟨"1", "_1", .integer, .int32, .direct, false, false⟩ ]

/-- The database takes neither the definition of the table nor the statements on it. -/
theorem user_reserved :
    Collect.source "crate" "struct User \x7b id: i64, order: String, _1: i32 \x7d" .empty =
        .ok (.insert {} user) ∧
      Table.compile (.insert {} user) 255 user = .ok userTable ∧
      userTable.createSql .postgres =
        "CREATE TABLE user (\n  id BIGINT GENERATED BY DEFAULT AS IDENTITY,\n" ++
          "  order VARCHAR(255) NOT NULL,\n  1 INTEGER NOT NULL,\n  PRIMARY KEY (id)\n);\n" ∧
      insertSql userTable {} = "insert into user (order, 1) values ($1, $2) returning id" ∧
      selectSql userTable {} = "select id, order, 1 from user" ∧
      ¬ WritesBareNames userTable {} := by
  have hcompile : Table.compile (.insert {} user) 255 user = .ok userTable := by rfl
  refine ⟨by decide +kernel, hcompile, by rfl, by rfl, by rfl, fun h => ?_⟩
  obtain ⟨fields, marked, k, -, htable⟩ := compile_eq_ok_iff.mp hcompile
  have hname := ((writesBareNames_iff_names {} htable).mp h).1
  exact hname.unreserved (by decide +kernel)

end Code

end Rowsmith
