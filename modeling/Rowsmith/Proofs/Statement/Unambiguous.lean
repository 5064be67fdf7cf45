/-
# Statements say which names they have

A name of letters, digits and underscores may be a word of the query language, such as `where` or
`and`. The text of a statement is not ambiguous for that: it is a row of assignments, each behind a
joint that says whether it is a new value or a condition, a name ends where its `=` stands, and the
placeholder after it is known from its position. So two rows with the same text are the same.
-/

import Mathlib.Data.List.Basic
import Rowsmith.Proofs.Statement.Outcome
import Rowsmith.Proofs.Statement.Reading
import Rowsmith.Proofs.Text.Segments

namespace Rowsmith

open Text

namespace Statement

/-! ## Rows of assignments -/

/-- What stands before an assignment. -/
inductive Joint where
  /-- Between two new values. -/
  | change
  /-- Before the first condition. -/
  | start
  /-- Between two conditions. -/
  | further
  deriving DecidableEq

/-- The text of a joint. -/
def Joint.text : Joint → String
  | change => ", "
  | start => " where "
  | further => " and "

/-- Writes names behind their joints, with placeholders from position `first` on. -/
def writeRow (dialect : Dialect) : (first : Nat) → List (Joint × String) → List Char
  | _, [] => []
  | first, (joint, name) :: row =>
    joint.text.toList ++ (name.toList ++ '=' ::
      ((dialect.placeholder first).toList ++ writeRow dialect (first + 1) row))

/-- The row of a condition. -/
def conditionRow : (names : List String) → List (Joint × String)
  | [] => []
  | name :: names => (.start, name) :: names.map (.further, ·)

variable {dialect : Dialect} {first : Nat}

theorem writeRow_append (row row' : List (Joint × String)) :
    writeRow dialect first (row ++ row') =
      writeRow dialect first row ++ writeRow dialect (first + row.length) row' := by
  induction row generalizing first with
  | nil => rfl
  | cons entry row ih =>
      simp [writeRow, ih, Nat.add_left_comm, Nat.add_comm]

/-- A row with the same joint between each two names is a list of assignments. -/
theorem writeRow_cons_map (joint between : Joint) (name : String) (names : List String) :
    writeRow dialect first ((joint, name) :: names.map (between, ·)) =
      joint.text.toList ++
        (between.text.intercalate (assigned dialect first (name :: names))).toList := by
  induction names generalizing first joint name with
  | nil => simp [writeRow]
  | cons second names ih =>
      rw [List.map_cons, writeRow, ih]
      simp

theorem writeRow_conditionRow (names : List String) :
    writeRow dialect first (conditionRow names) = (whereClause dialect first names).toList := by
  cases names with
  | nil => rfl
  | cons name names =>
      rw [conditionRow, writeRow_cons_map]
      simp [whereClause, Joint.text]

/-! ## Reading a row -/

/-- The joint at the head of a text is known from the text. -/
theorem Joint.text_append_inj {joint joint' : Joint} {rest rest' : List Char}
    (h : joint.text.toList ++ rest = joint'.text.toList ++ rest') :
    joint = joint' ∧ rest = rest' := by
  cases joint <;> cases joint' <;> simp_all [Joint.text]

/-- **The text of a row has one reading.** -/
theorem writeRow_inj {row row' : List (Joint × String)}
    (hrow : ∀ entry ∈ row, '=' ∉ entry.2.toList) (hrow' : ∀ entry ∈ row', '=' ∉ entry.2.toList)
    (h : writeRow dialect first row = writeRow dialect first row') : row = row' := by
  induction row generalizing first row' with
  | nil =>
      cases row' with
      | nil => rfl
      | cons entry row' => simp [writeRow] at h
  | cons entry row ih =>
      obtain ⟨joint, name⟩ := entry
      cases row' with
      | nil => simp [writeRow] at h
      | cons entry' row' =>
          obtain ⟨joint', name'⟩ := entry'
          rw [writeRow, writeRow] at h
          obtain ⟨rfl, hnames⟩ := Joint.text_append_inj h
          obtain ⟨hname, hplaced⟩ :=
            append_stop_inj (hrow _ List.mem_cons_self) (hrow' _ List.mem_cons_self) hnames
          obtain rfl := String.toList_inj.mp hname
          -- both names stand at the same position, so their placeholders are the same
          have hrest := ih (fun e he => hrow e (List.mem_cons_of_mem _ he))
            (fun e he => hrow' e (List.mem_cons_of_mem _ he)) (List.append_cancel_left hplaced)
          rw [hrest]

/-! ## Statements -/

/-- The row of new values and conditions. -/
def statementRow (updates names : List String) : List (Joint × String) :=
  updates.map (.change, ·) ++ conditionRow names

/-- The names of the new values in a row. -/
def changedNames (row : List (Joint × String)) : List String :=
  (row.filter fun entry => entry.1 = .change).map Prod.snd

/-- The names of the conditions in a row. -/
def conditionNames (row : List (Joint × String)) : List String :=
  (row.filter fun entry => entry.1 ≠ .change).map Prod.snd

theorem changedNames_statementRow (updates names : List String) :
    changedNames (statementRow updates names) = updates := by
  cases names <;>
    simp [changedNames, statementRow, conditionRow, List.filter_map, Function.comp_def]

theorem conditionNames_statementRow (updates names : List String) :
    conditionNames (statementRow updates names) = names := by
  cases names <;>
    simp [conditionNames, statementRow, conditionRow, List.filter_map, Function.comp_def]

theorem mem_of_mem_statementRow {updates names : List String} {entry : Joint × String}
    (h : entry ∈ statementRow updates names) : entry.2 ∈ updates ++ names := by
  cases names <;> simp [statementRow, conditionRow] at h ⊢ <;> grind

/-- Behind its head, a change with its condition is written as a row. -/
theorem writeRow_statementRow {updates : List String} (hupdates : updates ≠ [])
    (names : List String) :
    writeRow dialect 0 (statementRow updates names) =
      ", ".toList ++ ((", ".intercalate (assigned dialect 0 updates)).toList ++
        (whereClause dialect updates.length names).toList) := by
  obtain ⟨update, updates, rfl⟩ := List.exists_cons_of_ne_nil hupdates
  rw [statementRow, writeRow_append, List.map_cons, writeRow_cons_map, writeRow_conditionRow,
    List.append_assoc]
  simp [Joint.text]

variable {isColumn : String → Bool}

/-- Columns whose names are made of letters, digits and underscores have no `=`. -/
theorem equals_not_mem_of_allColumns (hcolumns : ∀ name, isColumn name = true → IsWordName name)
    {names : List String} (h : AllColumns isColumn names) :
    ∀ name ∈ names, '=' ∉ name.toList := by
  intro name hname hmem
  rcases (hcolumns name (h name hname)).part '=' hmem with hletter | hunderscore
  · exact absurd hletter (by decide)
  · exact absurd hunderscore (by decide)

/-- The row of a statement tells its names. -/
theorem eq_of_writeRow_eq (hcolumns : ∀ name, isColumn name = true → IsWordName name)
    {updates names updates' names' : List String} (h : AllColumns isColumn (updates ++ names))
    (h' : AllColumns isColumn (updates' ++ names'))
    (heq : writeRow dialect 0 (statementRow updates names) =
      writeRow dialect 0 (statementRow updates' names')) :
    updates = updates' ∧ names = names' := by
  have hrow := writeRow_inj
    (fun entry hentry =>
      equals_not_mem_of_allColumns hcolumns h _ (mem_of_mem_statementRow hentry))
    (fun entry hentry =>
      equals_not_mem_of_allColumns hcolumns h' _ (mem_of_mem_statementRow hentry)) heq
  constructor
  · simpa only [changedNames_statementRow] using congrArg changedNames hrow
  · simpa only [conditionNames_statementRow] using congrArg conditionNames hrow

/-- A statement without new values goes on with the row of its conditions. -/
theorem exists_row_of_conditional {operation : Operation} {head : String} {query : Fields}
    {s : Statement} (h : conditional operation dialect head query isColumn = .ok s) :
    AllColumns isColumn ([] ++ query.keys) ∧
      s.sql.toList = head.toList ++ writeRow dialect 0 (statementRow [] query.keys) := by
  obtain ⟨hquery, hspells⟩ := spells_of_conditional h
  refine ⟨hquery, ?_⟩
  rw [hspells.text, statementRow, List.map_nil, List.nil_append, writeRow_conditionRow]
  simp [Fields.empty, Fields.keys]

/-- A change goes on with the row of its new values and conditions, without the first joint. -/
theorem exists_row_of_update {table : String} {updates query : Fields} {s : Statement}
    (h : update dialect table updates query isColumn = .ok (some s)) :
    AllColumns isColumn (updates.keys ++ query.keys) ∧
      ∃ text, s.sql.toList = ("update " ++ table ++ " set ").toList ++ text ∧
        writeRow dialect 0 (statementRow updates.keys query.keys) = ", ".toList ++ text := by
  obtain ⟨hupdates, hchanged, hquery, hspells⟩ := spells_of_update h
  refine ⟨fun name hname => ?_, _, ?_, writeRow_statementRow hupdates query.keys⟩
  · rcases List.mem_append.mp hname with hname | hname
    · exact hchanged name hname
    · exact hquery name hname
  · rw [hspells.text]
    simp

/-- Statements with the same head and the same text have the same conditions. -/
theorem keys_eq_of_conditional (hcolumns : ∀ name, isColumn name = true → IsWordName name)
    {operation : Operation} {head : String} {query query' : Fields} {s s' : Statement}
    (h : conditional operation dialect head query isColumn = .ok s)
    (h' : conditional operation dialect head query' isColumn = .ok s') (heq : s.sql = s'.sql) :
    query.keys = query'.keys := by
  obtain ⟨hall, hsql⟩ := exists_row_of_conditional h
  obtain ⟨hall', hsql'⟩ := exists_row_of_conditional h'
  rw [heq, hsql'] at hsql
  exact (eq_of_writeRow_eq hcolumns hall hall' (List.append_cancel_left hsql).symm).2

/-- **The text of a statement tells its names.** Two changes of a table that have the same text have
the same new values by name and the same conditions by name, in order, and so have two removals and
two selections that go on from the same text. -/
theorem keys_eq_of_sql_eq (dialect : Dialect) (table base : String)
    (hcolumns : ∀ name, isColumn name = true → IsWordName name) :
    (∀ updates query updates' query' s s',
      update dialect table updates query isColumn = .ok (some s) →
      update dialect table updates' query' isColumn = .ok (some s') → s.sql = s'.sql →
      updates.keys = updates'.keys ∧ query.keys = query'.keys) ∧
    (∀ query query' s s',
      delete dialect table query isColumn = .ok s →
      delete dialect table query' isColumn = .ok s' → s.sql = s'.sql → query.keys = query'.keys) ∧
    (∀ query query' s s',
      select dialect base query isColumn = .ok s →
      select dialect base query' isColumn = .ok s' → s.sql = s'.sql →
      query.keys = query'.keys) := by
  refine ⟨fun updates query updates' query' s s' h h' heq => ?_,
    fun query query' s s' h h' heq => keys_eq_of_conditional hcolumns h h' heq,
    fun query query' s s' h h' heq => keys_eq_of_conditional hcolumns h h' heq⟩
  obtain ⟨hall, text, hsql, hrow⟩ := exists_row_of_update h
  obtain ⟨hall', text', hsql', hrow'⟩ := exists_row_of_update h'
  rw [heq, hsql'] at hsql
  have htext : text' = text := List.append_cancel_left hsql
  exact eq_of_writeRow_eq hcolumns hall hall' (by rw [hrow, hrow', htext])

/-- Columns whose names are words of conditions. -/
def isConditionWord (name : String) : Bool :=
  name == "where" || name == "and"

theorem isWordName_of_isConditionWord {name : String} (h : isConditionWord name = true) :
    IsWordName name := by
  rcases (by simpa [isConditionWord] using h : name = "where" ∨ name = "and") with rfl | rfl
  · decide
  · decide

/-- New values for the column `where`. -/
def whereField (v : Value) : Fields :=
  ⟨[("where", v)]⟩

/-- A condition on both columns. -/
def bothFields (v : Value) : Fields :=
  ⟨[("and", v), ("where", v)]⟩

/-- Statements on columns called `where` and `and` that differ in their values have the same text
and the same names. -/
theorem keys_eq_of_sql_eq_words :
    (∀ name, isConditionWord name = true → IsWordName name) ∧
    (∃ s s',
      update .postgres "t" (whereField (.bool true)) (bothFields (.bool true)) isConditionWord =
        .ok (some s) ∧
      update .postgres "t" (whereField (.int32 1)) (bothFields (.int32 1)) isConditionWord =
        .ok (some s') ∧
      s.sql = "update t set where=$1 where and=$2 and where=$3" ∧ s.sql = s'.sql ∧ s ≠ s' ∧
      (whereField (.bool true)).keys = (whereField (.int32 1)).keys ∧
      (bothFields (.bool true)).keys = (bothFields (.int32 1)).keys) ∧
    (∃ s s',
      delete .postgres "t" (bothFields (.bool true)) isConditionWord = .ok s ∧
      delete .postgres "t" (bothFields (.int32 1)) isConditionWord = .ok s' ∧
      s.sql = "delete from t where and=$1 and where=$2" ∧ s.sql = s'.sql ∧ s ≠ s' ∧
      (bothFields (.bool true)).keys = (bothFields (.int32 1)).keys) ∧
    (∃ s s',
      select .postgres "select and from t" (bothFields (.bool true)) isConditionWord = .ok s ∧
      select .postgres "select and from t" (bothFields (.int32 1)) isConditionWord = .ok s' ∧
      s.sql = "select and from t where and=$1 and where=$2" ∧ s.sql = s'.sql ∧ s ≠ s' ∧
      (bothFields (.bool true)).keys = (bothFields (.int32 1)).keys) := by
  obtain ⟨hupdate, hdelete, hselect⟩ := keys_eq_of_sql_eq .postgres "t" "select and from t"
    fun _ h => isWordName_of_isConditionWord h
  refine ⟨fun _ h => isWordName_of_isConditionWord h, ⟨_, _, rfl, rfl, rfl, rfl, by decide, ?_⟩,
    ⟨_, _, rfl, rfl, rfl, rfl, by decide, ?_⟩, ⟨_, _, rfl, rfl, rfl, rfl, by decide, ?_⟩⟩
  · exact hupdate _ _ _ _ _ _ rfl rfl rfl
  · exact hdelete _ _ _ _ rfl rfl rfl
  · exact hselect _ _ _ _ rfl rfl rfl

end Statement

end Rowsmith
