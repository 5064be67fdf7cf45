/-
# Each column is named once

Fields have names of their own, but the name of a column is the snake-case form
of the name of its field, and different fields can share that form. Compilation
does not refuse them. `namesOnce_iff` says exactly when the table definition, the
insertion and the emitted list of columns name each column once: when the
snake-case forms of the field names are distinct.
-/

import Mathlib.Data.List.InsertIdx
import Mathlib.Data.List.Nodup
import Rowsmith.Proofs.Code.Positions
import Rowsmith.Proofs.Table.Definition
import Rowsmith.Proofs.Text.Quoted

namespace Rowsmith.Code

open Source Statement Table Text

/-! ## The emitted list of columns -/

/-- The names that a list of string literals denotes. -/
def listedNames (value : String) : List String :=
  (entries (value.toList.drop 2).dropLast).filterMap fun entry =>
    Literal.string? (String.ofList entry)

theorem constant?_columns (t : Table) (o : Options) :
    ((accessorFile t o).constant? "COLUMNS").map Constant.value =
      some ("&[" ++ ", ".intercalate (t.columns.map fun c => quoted c.name) ++ "]") := by
  rfl

/-- A list of quoted names denotes the names. -/
theorem listedNames_eq {names : List String} (hne : names ≠ [])
    (hnames : ∀ name ∈ names, IsName name) :
    listedNames ("&[" ++ ", ".intercalate (names.map quoted) ++ "]") = names := by
  have htext : ("&[" ++ ", ".intercalate (names.map quoted) ++ "]").toList =
      '&' :: '[' :: ((", ".intercalate (names.map quoted)).toList ++ [']']) := by
    simp
  have hentries : entries (", ".intercalate (names.map quoted)).toList =
      (names.map quoted).map String.toList := by
    refine entries_toList_intercalate (by simpa using hne) ?_ ?_
    · intro part hpart
      obtain ⟨name, hname, rfl⟩ := List.mem_map.mp hpart
      exact comma_not_mem_quoted ((hnames name hname).not_mem (by decide))
    · intro part hpart
      obtain ⟨name, -, rfl⟩ := List.mem_map.mp hpart
      simp [quoted]
  rw [listedNames, htext, List.drop_succ_cons, List.drop_succ_cons, List.drop_zero,
    List.dropLast_concat, hentries]
  simp [string?_quoted, Function.comp_def]

/-! ## When names are distinct -/

/-- A member of a list without repetitions is found at its own position only. -/
theorem not_mem_eraseIdx_of_nodup {names : List String} {name : String} {k : Nat}
    (hdistinct : names.Nodup) (hk : names[k]? = some name) : name ∉ names.eraseIdx k := by
  obtain ⟨hlt, rfl⟩ := List.getElem?_eq_some_iff.mp hk
  rw [← hdistinct.erase_getElem k hlt]
  exact hdistinct.not_mem_erase

/-- Each column is named once: among the columns, by the definition of the table,
by the insertion, which does not name the identity, and by the emitted list. -/
structure NamesOnce (t : Table) (o : Options) : Prop where
  columns : (t.columns.map Column.name).Nodup
  defined : (definedColumns (t.createSql o.dialect)).Nodup
  inserted : ∃ sql,
    ((accessorFile t o).constant? "INSERT_SQL").map Constant.value = some (quoted sql) ∧
      (insertedColumns o.dialect sql).Nodup ∧
      t.identityName ∉ insertedColumns o.dialect sql
  listed : ∃ value,
    ((accessorFile t o).constant? "COLUMNS").map Constant.value = some value ∧
      (listedNames value).Nodup

/-- A compiled table names each column once exactly when the snake-case forms of
the names of its fields are distinct. -/
theorem namesOnce_iff {decls : DeclSet} {textBound : Nat} {entity : Decl}
    {fields : List FieldDecl} {marked : Bool} {t : Table} (o : Options)
    (hkind : entity.kind = .struct fields marked)
    (h : Table.compile decls textBound entity = .ok t) :
    NamesOnce t o ↔ (fields.map fun f => snakeCase f.name).Nodup := by
  obtain ⟨fields', marked', k, hkind', htable⟩ := compile_eq_ok_iff.mp h
  obtain ⟨rfl, -⟩ := DeclKind.struct.inj (hkind.symm.trans hkind')
  have hnames : t.columns.map Column.name = fields.map fun f => snakeCase f.name :=
    htable.map_name_columns
  rw [← hnames]
  constructor
  · exact fun hnamed => hnamed.columns
  · intro hdistinct
    refine ⟨hdistinct, ?_, ⟨_, constant?_insertSql t o, ?_, ?_⟩, ⟨_, constant?_columns t o, ?_⟩⟩
    · rwa [htable.definedColumns_createSql]
    · rw [(htable.bindsInserted o).columns, ← List.eraseIdx_map]
      exact hdistinct.eraseIdx k
    · obtain ⟨f, c, hf, hc, hcolumn⟩ := htable.exists_identity
      have hidentity : (t.columns.map Column.name)[k]? = some t.identityName := by
        rw [List.getElem?_map, hc, htable.identityName_eq hf, Option.map_some, hcolumn.name]
      rw [(htable.bindsInserted o).columns, ← List.eraseIdx_map]
      exact not_mem_eraseIdx_of_nodup hdistinct hidentity
    · have hne : t.columns.map Column.name ≠ [] := by simpa using htable.columns_ne_nil
      have hlisted := listedNames_eq hne (by simpa using fun c => htable.isName_column)
      rw [List.map_map] at hlisted
      rw [← Function.comp_def quoted Column.name, hlisted]
      exact hdistinct

theorem namesOnce_parcel : NamesOnce parcelTable {} := by
  have hcompile : Table.compile parcelDecls 255 parcel = .ok parcelTable := by rfl
  refine (namesOnce_iff {} rfl hcompile).mpr ?_
  show (["weight", "parcelNo", "insertedAt", "type"].map snakeCase).Nodup
  decide

/-- An entity with two pairs of fields that differ in case or underscores only. -/
def account : Decl where
  path := ⟨"app", "Account"⟩
  kind := .struct
    [ ⟨"key", .primitive .int64, "i64", none, true⟩,
      ⟨"Key", .primitive .text, "String", none, false⟩,
      ⟨"aB", .primitive .text, "String", none, false⟩,
      ⟨"a_b", .primitive .text, "String", none, false⟩ ] true

/-- Its table, in which each of two names is that of two columns. -/
def accountTable : Table where
  entity := ⟨"app", "Account"⟩
  name := "account"
  columns :=
    [ ⟨"key", "key", .bigInt, .int64, .direct, true, true⟩,
      ⟨"key", "Key", .varChar 255, .text, .direct, false, false⟩,
      ⟨"a_b", "aB", .varChar 255, .text, .direct, false, false⟩,
      ⟨"a_b", "a_b", .varChar 255, .text, .direct, false, false⟩ ]

/-- Compilation accepts the entity. The definition of its table and the insertion
name a column twice, and the insertion names the identity. -/
theorem account_named_twice :
    Table.compile .empty 255 account = .ok accountTable ∧ ¬ NamesOnce accountTable {} ∧
      definedColumns (accountTable.createSql .postgres) = ["key", "key", "a_b", "a_b"] ∧
      insertedColumns .postgres (insertSql accountTable {}) = ["key", "a_b", "a_b"] ∧
      accountTable.identityName = "key" := by
  have hcompile : Table.compile .empty 255 account = .ok accountTable := by rfl
  obtain ⟨fields, marked, k, -, htable⟩ := compile_eq_ok_iff.mp hcompile
  refine ⟨hcompile, fun h => ?_, htable.definedColumns_createSql .postgres, by rfl, by rfl⟩
  have hdistinct : (["key", "key", "a_b", "a_b"] : List String).Nodup := h.columns
  exact absurd hdistinct (by decide)

end Rowsmith.Code
