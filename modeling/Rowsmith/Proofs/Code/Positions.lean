/-
# Positions in emitted accessors

The statement that inserts a row, the values that are bound to it, the statement
that selects rows and the fields that are set from a row are written by four
traversals of the columns. Here each is read back from the emitted module by
itself: the statements from their texts, the bound values and the fields from
the lines of the functions. `positions_agree` says that at every position all of
them speak of the same column.
-/

import Rowsmith.Code.Accessors
import Rowsmith.Proofs.Statement.Reading
import Rowsmith.Proofs.Table.Compile

namespace Rowsmith

/-! ## Reading emitted code -/

namespace Code

/-- The constant of a file with a name. -/
def File.constant? (f : File) (name : String) : Option Constant :=
  f.items.findSome? fun
    | .constant c => if c.name = name then some c else none
    | _ => none

/-- The function of a file with a name. -/
def File.function? (f : File) (name : String) : Option Function :=
  f.items.findSome? fun
    | .function g => if g.name = name then some g else none
    | _ => none

/-- The text of a statement that is a line. -/
def Stmt.line? : Stmt → Option String
  | .line text => some text
  | _ => none

/-- The lines of the first block of `body` with the first line `opening`. -/
def linesAfter (opening : String) : List Stmt → List String
  | [] => []
  | .block first body _ :: rest =>
    if first = opening then body.filterMap Stmt.line? else linesAfter opening rest
  | _ :: rest => linesAfter opening rest

/-- The lines of the function `name` in the block with the first line `opening`. -/
def File.linesOf (f : File) (name opening : String) : List String :=
  ((f.function? name).map fun g => linesAfter opening g.body).getD []

/-- The first line of the block that lists what an insertion binds. -/
def bindOpening : String :=
  "let row = GenericClient::query_one(db, INSERT_SQL, &["

/-- Lines before a block do not hide it. -/
theorem linesAfter_append {opening : String} {lines body : List Stmt}
    (h : ∀ s ∈ lines, ∃ text, s = .line text) :
    linesAfter opening (lines ++ body) = linesAfter opening body := by
  induction lines with
  | nil => rfl
  | cons s lines ih =>
      obtain ⟨text, rfl⟩ := h s List.mem_cons_self
      simpa only [List.cons_append, linesAfter] using
        ih fun s hs => h s (List.mem_cons_of_mem _ hs)

theorem filterMap_line?_map {α : Type} (f : α → String) (xs : List α) :
    (xs.map fun x => Stmt.line (f x)).filterMap Stmt.line? = xs.map f := by
  rw [List.filterMap_map]
  exact congrFun List.filterMap_eq_map xs

theorem connectionPrelude_lines (o : Options) :
    ∀ s ∈ connectionPrelude o, ∃ text, s = .line text := by
  intro s hs
  unfold connectionPrelude at hs
  split at hs
  · cases hs
  · exact ⟨_, List.mem_singleton.mp hs⟩

/-! ## The emitted accessors -/

theorem constant?_insertSql (t : Table) (o : Options) :
    ((accessorFile t o).constant? "INSERT_SQL").map Constant.value =
      some (Text.quoted (insertSql t o)) := by
  rfl

theorem constant?_selectSql (t : Table) (o : Options) :
    ((accessorFile t o).constant? "SELECT_SQL").map Constant.value =
      some (Text.quoted (selectSql t o)) := by
  rfl

theorem linesOf_insert (t : Table) (o : Options) :
    (accessorFile t o).linesOf "insert" bindOpening =
      (insertArguments t o).map fun a => a.render ++ "," := by
  have hfunction : (accessorFile t o).function? "insert" = some (insertFunction t o) := rfl
  rw [File.linesOf, hfunction, Option.map_some, Option.getD_some, insertFunction,
    List.append_assoc, linesAfter_append (connectionPrelude_lines o), linesAfter_append,
    linesAfter, bindOpening, if_pos rfl, filterMap_line?_map]
  intro s hs
  split at hs
  · cases hs
  · exact ⟨_, List.mem_singleton.mp hs⟩

theorem linesOf_fromRow (t : Table) (o : Options) :
    (accessorFile t o).linesOf "from_row" s!"Ok({t.entity.name} \x7b" =
      (initialisers t).map Initialiser.render := by
  have hfunction : (accessorFile t o).function? "from_row" = some (rowFunction t) := rfl
  rw [File.linesOf, hfunction, Option.map_some, Option.getD_some, rowFunction, linesAfter,
    if_pos rfl, filterMap_line?_map]

/-! ## What agrees -/

/-- The column at position `k` is the identity, and no other column is. -/
def IdentityAt (t : Table) (k : Nat) : Prop :=
  (∃ c, t.columns[k]? = some c ∧ t.identity? = some c) ∧
    ∀ i c, t.columns[i]? = some c → (c.primaryKey = true ↔ i = k)

/-- The lines `bound` bind, position by position, the columns that the statement
`sql` gives values for: all but the identity at position `k`. -/
structure BindsInserted (t : Table) (o : Options) (k : Nat) (sql : String)
    (bound : List String) : Prop where
  columns : Statement.insertedColumns o.dialect sql = (t.columns.eraseIdx k).map Column.name
  placeholders : Statement.insertedPlaceholders o.dialect sql =
    (List.range bound.length).map o.dialect.placeholder
  length : bound.length = (Statement.insertedColumns o.dialect sql).length
  now : ∀ (i : Nat) (c : Column), (t.columns.eraseIdx k)[i]? = some c →
    (bound[i]? = some "&now," ↔ o.isAutoTimestamp c = true)
  inner : ∀ (i : Nat) (c : Column) (path : TypePath), (t.columns.eraseIdx k)[i]? = some c →
    o.isAutoTimestamp c = false → c.via = .newtype path →
    bound[i]? = some s!"&d.{identifier c.field}.0,"
  field : ∀ (i : Nat) (c : Column), (t.columns.eraseIdx k)[i]? = some c →
    o.isAutoTimestamp c = false → (∀ path, c.via ≠ .newtype path) →
    bound[i]? = some s!"&d.{identifier c.field},"

/-- The lines `set` set, position by position, the fields of the columns that the
statement `sql` selects. -/
structure SetsSelected (t : Table) (o : Options) (sql : String) (set : List String) :
    Prop where
  expressions : Statement.selectedExpressions sql =
    t.columns.map fun c => (projection o c).render c.name
  length : set.length = t.columns.length
  wrapped : ∀ (i : Nat) (c : Column) (path : TypePath), t.columns[i]? = some c →
    c.via = .newtype path →
    set[i]? = some s!"{identifier c.field}: {path.name}(row.try_get({i})?),"
  plain : ∀ (i : Nat) (c : Column), t.columns[i]? = some c → (∀ path, c.via ≠ .newtype path) →
    set[i]? = some s!"{identifier c.field}: row.try_get({i})?,"

theorem argument_render_eq_now_iff (o : Options) (c : Column) :
    (argument o c).render ++ "," = "&now," ↔ o.isAutoTimestamp c = true := by
  unfold argument
  cases hauto : o.isAutoTimestamp c with
  | true => simp [Argument.render]
  | false =>
      simp only [Bool.false_eq_true, if_false, iff_false]
      -- the second character tells a field from the time
      intro heq
      have hchars := congrArg String.toList heq
      split at hchars <;> simp [Argument.render] at hchars

theorem render_wrapped (field name : String) (i : Nat) :
    Initialiser.render ⟨field, i, some name⟩ =
      s!"{identifier field}: {name}(row.try_get({i})?)," :=
  String.toList_inj.mp (by simp [Initialiser.render])

theorem render_plain (field : String) (i : Nat) :
    Initialiser.render ⟨field, i, none⟩ = s!"{identifier field}: row.try_get({i})?," :=
  String.toList_inj.mp (by simp [Initialiser.render])

end Code

namespace Table.IsTableOf

open Code Text

variable {decls : DeclSet} {textBound k : Nat} {entity : Decl} {fields : List FieldDecl}
  {t : Table}

theorem identityAt (h : IsTableOf decls textBound entity fields k t) : IdentityAt t k := by
  obtain ⟨f, c, -, hc, -⟩ := h.exists_identity
  exact ⟨⟨c, hc, h.identity?_eq.trans hc⟩, fun i d hd => h.primaryKey_iff hd⟩

theorem bindsInserted (h : IsTableOf decls textBound entity fields k t) (o : Options) :
    BindsInserted t o k (insertSql t o)
      ((insertArguments t o).map fun a => a.render ++ ",") := by
  have hnames : ∀ name ∈ t.insertColumns.map Column.name, IsName name := by
    intro name hname
    obtain ⟨c, hc, rfl⟩ := List.mem_map.mp hname
    exact h.isName_column (List.mem_of_mem_filter hc)
  have hcolumns := Statement.insertedColumns_insertSql o.dialect h.isName_name
    h.isName_identityName hnames
  have hplaceholders := Statement.insertedPlaceholders_insertSql o.dialect h.isName_name
    h.isName_identityName hnames
  have hbound : ∀ (i : Nat) (c : Column), (t.columns.eraseIdx k)[i]? = some c →
      ((insertArguments t o).map fun a => a.render ++ ",")[i]? =
        some ((argument o c).render ++ ",") := by
    intro i c hc
    simp [insertArguments, h.insertColumns_eq, hc]
  refine ⟨?_, ?_, ?_, ?_, ?_, ?_⟩
  · rw [insertSql, hcolumns, h.insertColumns_eq]
  · rw [insertSql, hplaceholders]
    simp [insertArguments]
  · rw [insertSql, hcolumns]
    simp [insertArguments]
  · intro i c hc
    rw [hbound i c hc, Option.some.injEq]
    exact argument_render_eq_now_iff o c
  · intro i c path hc hauto hvia
    rw [hbound i c hc, argument, hauto, hvia, Option.some.injEq]
    exact String.toList_inj.mp (by simp [Argument.render])
  · intro i c hc hauto hvia
    rw [hbound i c hc, argument, hauto, Option.some.injEq]
    cases hkind : c.via with
    | newtype path => exact absurd hkind (hvia path)
    | direct => rfl
    | synonym path => rfl

theorem setsSelected (h : IsTableOf decls textBound entity fields k t) (o : Options) :
    SetsSelected t o (selectSql t o) ((initialisers t).map Initialiser.render) := by
  refine ⟨?_, by simp [initialisers], ?_, ?_⟩
  · rw [selectSql, Statement.selectedExpressions_selectSql h.isName_name
      (by simpa using h.columns_ne_nil), List.map_map]
    · rfl
    · intro c hc
      obtain ⟨d, hd, rfl⟩ := List.mem_map.mp hc
      exact h.isName_column hd
  · intro i c path hc hvia
    simp [initialisers, hc, hvia, render_wrapped]
  · intro i c hc hvia
    cases hkind : c.via with
    | newtype path => exact absurd hkind (hvia path)
    | direct => simp [initialisers, hc, hkind, render_plain]
    | synonym path => simp [initialisers, hc, hkind, render_plain]

end Table.IsTableOf

namespace Code

/-- In the accessors of a compiled table all traversals of its columns agree at
every position. -/
theorem positions_agree {decls : DeclSet} {textBound : Nat} {entity : Decl} {t : Table}
    (o : Options) (h : Table.compile decls textBound entity = .ok t) :
    ∃ k insert select, IdentityAt t k ∧
      ((accessorFile t o).constant? "INSERT_SQL").map Constant.value =
        some (Text.quoted insert) ∧
      ((accessorFile t o).constant? "SELECT_SQL").map Constant.value =
        some (Text.quoted select) ∧
      BindsInserted t o k insert ((accessorFile t o).linesOf "insert" bindOpening) ∧
      SetsSelected t o select
        ((accessorFile t o).linesOf "from_row" s!"Ok({t.entity.name} \x7b") := by
  obtain ⟨fields, -, k, -, htable⟩ := Table.compile_eq_ok_iff.mp h
  refine ⟨k, insertSql t o, selectSql t o, htable.identityAt, constant?_insertSql t o,
    constant?_selectSql t o, ?_, ?_⟩
  · rw [linesOf_insert]
    exact htable.bindsInserted o
  · rw [linesOf_fromRow]
    exact htable.setsSelected o

/-- An entity whose identity is not its first field. Its first field holds a
wrapper, and its last one has the name of a keyword. -/
def parcel : Decl where
  path := ⟨"app", "Parcel"⟩
  kind := .struct
    [ ⟨"weight", .named ⟨"app", "Grams"⟩, "Grams", none, false⟩,
      ⟨"parcelNo", .primitive .int64, "i64", none, true⟩,
      ⟨"insertedAt", .primitive .timestamp, "NaiveDateTime", none, false⟩,
      ⟨"type", .primitive .text, "String", none, false⟩ ] true

/-- The declaration that its first field names. -/
def parcelDecls : DeclSet :=
  .insert {} ⟨⟨"app", "Grams"⟩, .newtype (.primitive .int32)⟩

/-- Its table. -/
def parcelTable : Table where
  entity := ⟨"app", "Parcel"⟩
  name := "parcel"
  columns :=
    [ ⟨"weight", "weight", .integer, .int32, .newtype ⟨"app", "Grams"⟩, false, false⟩,
      ⟨"parcel_no", "parcelNo", .bigInt, .int64, .direct, true, true⟩,
      ⟨"inserted_at", "insertedAt", .dateTime, .timestamp, .direct, false, false⟩,
      ⟨"type", "type", .varChar 255, .text, .direct, false, false⟩ ]

theorem positions_agree_parcel :
    Table.compile parcelDecls 255 parcel = .ok parcelTable ∧
      ∃ k insert select, IdentityAt parcelTable k ∧
        ((accessorFile parcelTable {}).constant? "INSERT_SQL").map Constant.value =
          some (Text.quoted insert) ∧
        ((accessorFile parcelTable {}).constant? "SELECT_SQL").map Constant.value =
          some (Text.quoted select) ∧
        BindsInserted parcelTable {} k insert ["&d.weight.0,", "&now,", "&d.r#type,"] ∧
        SetsSelected parcelTable {} select
          ["weight: Grams(row.try_get(0)?),", "parcelNo: row.try_get(1)?,",
            "insertedAt: row.try_get(2)?,", "r#type: row.try_get(3)?,"] := by
  have hcompile : Table.compile parcelDecls 255 parcel = .ok parcelTable := by rfl
  exact ⟨hcompile, positions_agree {} hcompile⟩

end Code

end Rowsmith
