/-
# Rows in emitted tests

The emitted tests make a new row from a number, a stored row from a new one, and a
payload from a number. All three go by what an insertion does with the columns: it
leaves out the identity, sets some columns to the time, and takes the others from the
row. Here the columns that are set to the time are read off the emitted insertion, and
the functions of the test module are compared with it.

The functions agree with the insertion, and each column is given what it holds in its
wrapper, if it has one. Only a time that is assigned to a stored row is given as it is;
`makesRows_iff` says for which tables that does no harm.
-/

import Rowsmith.Proofs.Code.Identifiers
import Rowsmith.Proofs.Code.StoredRows

namespace Rowsmith

open Text

namespace Code

/-! ## What a column is given -/

/-- The expression gives the column a value: in the wrapper of the column if its type is one, and
as it is if not. -/
inductive Gives (c : Column) (value : String) : String → Prop
  | wrapped {path : TypePath} :
      c.via = .newtype path → Gives c value s!"{path.name}({value})"
  | bare : (∀ path, c.via ≠ .newtype path) → Gives c value value

theorem gives_wrapped (c : Column) (value : String) : Gives c value (wrapped c value) := by
  unfold Code.wrapped
  split
  next path hvia => exact .wrapped hvia
  next hvia => exact .bare hvia

/-- A value is given as it is to a column without a wrapper only. -/
theorem Gives.isWrapped_eq_false {c : Column} {value expression : String}
    (h : Gives c value expression) (hbare : expression = value) : c.isWrapped = false := by
  cases h with
  | wrapped =>
      -- the parentheses make any wrapped value longer
      have hlength := congrArg (fun s => s.toList.length) hbare
      simp at hlength
      omega
  | bare hvia =>
      unfold Column.isWrapped
      split
      next path heq => exact absurd heq (hvia path)
      next => rfl

theorem gives_self {c : Column} (h : c.isWrapped = false) (value : String) :
    Gives c value value := by
  apply Gives.bare
  intro path hvia
  simp [Column.isWrapped, hvia] at h

/-! ## What an insertion does with the columns -/

/-- The columns other than the one at position `k`, with the lines that bind something for them
where a row is inserted. -/
def boundLines (t : Table) (o : Options) (k : Nat) : List (Column × String) :=
  (t.columns.eraseIdx k).zip ((accessorFile t o).linesOf "insert" bindOpening)

/-- The columns for which an insertion binds the time. -/
def stampedColumns (t : Table) (o : Options) (k : Nat) : List Column :=
  ((boundLines t o k).filter fun p => p.2 = "&now,").map Prod.fst

/-- The columns for which an insertion binds something else. -/
def carriedColumns (t : Table) (o : Options) (k : Nat) : List Column :=
  ((boundLines t o k).filter fun p => p.2 ≠ "&now,").map Prod.fst

/-- What a column of a new row starts with. -/
def startValue (t : Table) (o : Options) (k : Nat) (c : Column) : String :=
  if c.primaryKey then "0"
  else if c ∈ stampedColumns t o k then "NaiveDateTime::default()"
  else nonceExpression c.kind

/-- The line that sets the field of a column where a row is made. -/
def initialLine (c : Column) (expression : String) : String :=
  s!"{identifier c.field}: {expression},"

/-- The line that assigns to the field of a column. -/
def assignmentLine (c : Column) (expression : String) : String :=
  s!"d.{identifier c.field} = {expression};"

/-- The emitted tests make rows and payloads as the insertion has it, for a table with its
identity at position `k`. The columns that are set to the time are assigned what `stamp`
admits. -/
structure MakesRows (t : Table) (o : Options) (k : Nat) (stamp : Column → String → Prop) :
    Prop where
  /-- An insertion binds something for each column but the identity. -/
  bound : ((accessorFile t o).linesOf "insert" bindOpening).length =
    (t.columns.eraseIdx k).length
  /-- A new row gives each column what it starts with. -/
  initial : List.Forall₂
    (fun c line => ∃ e, Gives c (startValue t o k c) e ∧ line = initialLine c e) t.columns
    ((testFile t o).linesOf "populate_from_nonce" (t.entity.name ++ " \x7b"))
  /-- A stored row gives a value to the identity and then to the columns that are set to the
  time. -/
  stored : ∃ i e stamps, t.columns[k]? = some i ∧ Gives i "id" e ∧
    List.Forall₂ stamp (stampedColumns t o k) stamps ∧
    (testFile t o).outerLinesOf "populate_with_id_and_timestamp" =
      "let mut d = populate_from_nonce(nonce);" :: assignmentLine i e ::
        List.zipWith assignmentLine (stampedColumns t o k) stamps ++ ["d"]
  /-- A payload lists the other columns, each once and in order. -/
  payload : (testFile t o).linesOf "fields_from_nonce" "Fields::new()" =
    (carriedColumns t o k).map fun c => s!".with({quoted c.name}, {nonceExpression c.kind})"

theorem assignmentLine_inj {c : Column} {e e' : String}
    (h : assignmentLine c e = assignmentLine c e') : e = e' := by
  have hchars := congrArg String.toList h
  simp [assignmentLine] at hchars
  exact String.toList_inj.mp hchars

theorem linesOf_payload (t : Table) (o : Options) :
    (testFile t o).linesOf "fields_from_nonce" "Fields::new()" =
      (plainColumns t o).map fun c => s!".with({quoted c.name}, {nonceExpression c.kind})" := by
  have hfunction : (testFile t o).function? "fields_from_nonce" = some (payloadFunction t o) :=
    function?_testFile (g := payloadFunction t o) (by simp)
  rw [File.linesOf, hfunction, Option.map_some, Option.getD_some, payloadFunction, noncePayload,
    List.map_map]
  cases plainColumns t o with
  | nil => rfl
  | cons c columns =>
      dsimp only
      rw [List.map_cons, List.isEmpty_cons, if_neg Bool.false_ne_true, linesAfter, if_pos rfl,
        ← List.map_cons]
      exact filterMap_line?_map _ _

/-! ## The columns read off the insertion -/

/-- Times that are assigned as they are, and yet as the columns ask for, go to columns without a
wrapper. -/
theorem isWrapped_eq_false_of_assigned {columns : List Column} {stamps : List String}
    (hgiven : List.Forall₂ (fun c e => Gives c "t" e) columns stamps)
    (hlines : List.zipWith assignmentLine columns stamps =
      columns.map fun c => assignmentLine c "t") :
    ∀ c ∈ columns, c.isWrapped = false := by
  induction hgiven with
  | nil => simp
  | cons hhead _ ih =>
      rw [List.zipWith_cons_cons, List.map_cons, List.cons.injEq] at hlines
      rw [List.forall_mem_cons]
      exact ⟨hhead.isWrapped_eq_false (assignmentLine_inj hlines.1), ih hlines.2⟩

/-- Members that are selected by what is computed from them. -/
theorem map_fst_filter_zip_map {α β : Type} (f : α → β) (p : β → Bool) (xs : List α) :
    ((xs.zip (xs.map f)).filter fun x => p x.2).map Prod.fst = xs.filter fun x => p (f x) := by
  have hzip : xs.zip (xs.map f) = xs.map fun x => (x, f x) := by
    rw [← List.zip_map', List.map_id']
  rw [hzip, List.filter_map, List.map_map]
  exact List.map_id' _

end Code

namespace Table.IsTableOf

open Code

variable {decls : DeclSet} {textBound k : Nat} {entity : Decl} {fields : List FieldDecl}
  {t : Table}

theorem linesOf_insert_eq (h : IsTableOf decls textBound entity fields k t) (o : Options) :
    (accessorFile t o).linesOf "insert" bindOpening =
      (t.columns.eraseIdx k).map fun c => (argument o c).render ++ "," := by
  rw [linesOf_insert, insertArguments, h.insertColumns_eq, List.map_map]
  rfl

/-- The columns with lines of some kind, in order. -/
theorem map_fst_filter_boundLines (h : IsTableOf decls textBound entity fields k t) (o : Options)
    (p : String → Bool) :
    ((boundLines t o k).filter fun x => p x.2).map Prod.fst =
      t.columns.filter fun c => p ((argument o c).render ++ ",") && !c.primaryKey := by
  rw [boundLines, h.linesOf_insert_eq, map_fst_filter_zip_map, ← h.insertColumns_eq,
    insertColumns, List.filter_filter]

/-- The insertion sets exactly the columns to the time that the options ask for. -/
theorem stampedColumns_eq (h : IsTableOf decls textBound entity fields k t) (o : Options) :
    stampedColumns t o k = autoColumns t o := by
  apply (h.map_fst_filter_boundLines o fun line => line = "&now,").trans
  apply List.filter_congr
  intro c _
  rw [Bool.eq_iff_iff, Bool.and_eq_true, decide_eq_true_iff, argument_render_eq_now_iff,
    and_iff_left_iff_imp]
  -- a column that is set to the time is not the identity
  intro hauto
  rw [(isAutoTimestamp_iff.mp hauto).1]
  rfl

theorem carriedColumns_eq (h : IsTableOf decls textBound entity fields k t) (o : Options) :
    carriedColumns t o k = plainColumns t o := by
  apply (h.map_fst_filter_boundLines o fun line => line ≠ "&now,").trans
  apply List.filter_congr
  intro c _
  rw [Bool.and_comm, Bool.eq_iff_iff, Bool.and_eq_true, Bool.and_eq_true, decide_eq_true_iff, Ne,
    argument_render_eq_now_iff, Bool.not_eq_true, Bool.not_eq_true' (o.isAutoTimestamp c)]

theorem initialExpression_eq (h : IsTableOf decls textBound entity fields k t) (o : Options)
    {c : Column} (hc : c ∈ t.columns) : initialExpression o c = wrapped c (startValue t o k c) := by
  have hstamped : c ∈ stampedColumns t o k ↔ o.isAutoTimestamp c = true := by
    rw [h.stampedColumns_eq, mem_autoColumns, and_iff_right hc]
  simp only [initialExpression, startValue, hstamped]

/-- The lines that make a stored row from a new one: the time is assigned as it is. -/
theorem outerLinesOf_stored_eq (h : IsTableOf decls textBound entity fields k t) (o : Options) :
    ∃ i, t.columns[k]? = some i ∧
      (testFile t o).outerLinesOf "populate_with_id_and_timestamp" =
        "let mut d = populate_from_nonce(nonce);" :: assignmentLine i (wrapped i "id") ::
          (stampedColumns t o k).map (fun c => assignmentLine c "t") ++ ["d"] := by
  obtain ⟨f, i, -, hi, -⟩ := h.exists_identity
  have hidentity : t.identity? = some i := h.identity?_eq.trans hi
  refine ⟨i, hi, ?_⟩
  rw [outerLinesOf_stored, storedAssignments, hidentity, h.stampedColumns_eq]
  simp [assignmentLine, Function.comp_def]

/-- The emitted tests make what they should if the time may be assigned as it is. -/
theorem makesRows (h : IsTableOf decls textBound entity fields k t) (o : Options)
    {stamp : Column → String → Prop} (hstamp : ∀ c ∈ stampedColumns t o k, stamp c "t") :
    MakesRows t o k stamp where
  bound := by rw [h.linesOf_insert_eq, List.length_map]
  initial := by
    rw [linesOf_populate, List.forall₂_map_right_iff, List.forall₂_same]
    intro c hc
    refine ⟨initialExpression o c, ?_, rfl⟩
    rw [h.initialExpression_eq o hc]
    exact gives_wrapped c _
  stored := by
    obtain ⟨i, hi, hlines⟩ := h.outerLinesOf_stored_eq o
    refine ⟨i, wrapped i "id", (stampedColumns t o k).map fun _ => "t", hi, gives_wrapped i _,
      ?_, ?_⟩
    · rw [List.forall₂_map_right_iff, List.forall₂_same]
      exact hstamp
    · rw [hlines, List.zipWith_map_right, List.zipWith_self]
  payload := by
    rw [linesOf_payload, h.carriedColumns_eq]

/-- Where the time is given to each column as the column asks for it, no column that is set to it
has a wrapper. -/
theorem isWrapped_eq_false_of_makesRows (h : IsTableOf decls textBound entity fields k t)
    {o : Options} (hmakes : MakesRows t o k fun c e => Gives c "t" e) :
    ∀ c ∈ stampedColumns t o k, c.isWrapped = false := by
  obtain ⟨i, hi, hlines⟩ := h.outerLinesOf_stored_eq o
  obtain ⟨i', e, stamps, hi', -, hgiven, hlines'⟩ := hmakes.stored
  apply isWrapped_eq_false_of_assigned hgiven
  have hsame := hlines'.symm.trans hlines
  simp only [List.cons_append, List.cons.injEq, true_and] at hsame
  exact List.append_cancel_right hsame.2

end Table.IsTableOf

namespace Code

/-- The rows that the tests of a compiled table make go by its insertion, and everything is given
to columns in their wrappers but the time to a stored row. All is well exactly if no column that
is set to the time has a wrapper. -/
theorem makesRows_iff {decls : DeclSet} {textBound : Nat} {entity : Decl} {t : Table} (o : Options)
    (h : Table.compile decls textBound entity = .ok t) :
    ∃ k, IdentityAt t k ∧ MakesRows t o k (fun _ e => e = "t") ∧
      (MakesRows t o k (fun c e => Gives c "t" e) ↔
        ∀ c ∈ stampedColumns t o k, c.isWrapped = false) := by
  obtain ⟨fields, -, k, -, htable⟩ := Table.compile_eq_ok_iff.mp h
  refine ⟨k, htable.identityAt, htable.makesRows o fun _ _ => rfl, ?_⟩
  constructor
  · exact htable.isWrapped_eq_false_of_makesRows
  · intro hbare
    exact htable.makesRows o fun c hc => gives_self (hbare c hc) "t"

/-- The column at the position of the identity. -/
theorem IdentityAt.eq_of_primaryKey {t : Table} {k i : Nat} {c : Column} (h : IdentityAt t k)
    (hc : t.columns[i]? = some c) (hkey : c.primaryKey = true) : i = k :=
  (h.2 i c hc).mp hkey

theorem makesRows_iff_parcel :
    Table.compile parcelDecls 255 parcel = .ok parcelTable ∧
      ((testFile parcelTable {}).linesOf "populate_from_nonce" "Parcel \x7b" =
          ["weight: Grams(nonce as i32),", "parcelNo: 0,", "insertedAt: NaiveDateTime::default(),",
            "r#type: format!(\"some_str\x7bnonce\x7d\"),"] ∧
        (testFile parcelTable {}).outerLinesOf "populate_with_id_and_timestamp" =
          ["let mut d = populate_from_nonce(nonce);", "d.parcelNo = id;", "d.insertedAt = t;",
            "d"]) ∧
      MakesRows parcelTable {} 1 fun c e => Gives c "t" e := by
  have hcompile : Table.compile parcelDecls 255 parcel = .ok parcelTable := by rfl
  refine ⟨hcompile, by decide +kernel, ?_⟩
  obtain ⟨k, hidentity, -, hiff⟩ := makesRows_iff {} hcompile
  obtain rfl : 1 = k := hidentity.eq_of_primaryKey rfl rfl
  exact hiff.mpr (by decide +kernel)

/-- A source text with a wrapper around a time, and an entity that has it in a column that is set to
the time. -/
def visitSource : String :=
  "struct Moment(NaiveDateTime); struct Visit \x7b id: i64, inserted_at: Moment \x7d"

/-- The entity. -/
def visit : Decl where
  path := ⟨"crate", "Visit"⟩
  kind := .struct
    [ ⟨"id", .primitive .int64, "i64", none, false⟩,
      ⟨"inserted_at", .named ⟨"crate", "Moment"⟩, "Moment", none, false⟩ ] false

/-- What the text declares. -/
def visitDecls : DeclSet :=
  .insertAll {} [⟨⟨"crate", "Moment"⟩, .newtype (.primitive .timestamp)⟩, visit]

/-- The table of the entity. -/
def visitTable : Table where
  entity := ⟨"crate", "Visit"⟩
  name := "visit"
  columns :=
    [ ⟨"id", "id", .bigInt, .int64, .direct, true, true⟩,
      ⟨"inserted_at", "inserted_at", .dateTime, .timestamp, .newtype ⟨"crate", "Moment"⟩, false,
        false⟩ ]

/-- A new row has the time in its wrapper, and a stored row is assigned it without. -/
theorem moment_assigned_bare :
    (Collect.source "crate" visitSource .empty = .ok visitDecls ∧
      Table.compile visitDecls 255 visit = .ok visitTable) ∧
      ((testFile visitTable {}).linesOf "populate_from_nonce" "Visit \x7b" =
          ["id: 0,", "inserted_at: Moment(NaiveDateTime::default()),"] ∧
        (testFile visitTable {}).outerLinesOf "populate_with_id_and_timestamp" =
          ["let mut d = populate_from_nonce(nonce);", "d.id = id;", "d.inserted_at = t;", "d"]) ∧
      ∀ k, IdentityAt visitTable k →
        ¬ MakesRows visitTable {} k fun c e => Gives c "t" e := by
  have hcompile : Table.compile visitDecls 255 visit = .ok visitTable := by rfl
  refine ⟨⟨by decide +kernel, hcompile⟩, by decide +kernel, ?_⟩
  intro k hidentity hmakes
  obtain rfl : 0 = k := hidentity.eq_of_primaryKey rfl rfl
  obtain ⟨fields, -, k, -, htable⟩ := Table.compile_eq_ok_iff.mp hcompile
  obtain rfl : 0 = k := htable.identityAt.eq_of_primaryKey rfl rfl
  have hwrapped : ∃ c ∈ stampedColumns visitTable {} 0, c.isWrapped = true := by
    decide +kernel
  obtain ⟨c, hc, htrue⟩ := hwrapped
  rw [htable.isWrapped_eq_false_of_makesRows hmakes c hc] at htrue
  cases htrue

end Code

end Rowsmith
