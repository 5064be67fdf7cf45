/-
# Reading statements back

The columns that an insertion gives values for, its placeholders, and the
expressions that a selection lists, read off the text of the statement alone.
For names that consist of the characters of snake-case names, each reader gives
back what the statement was built from, in order.
-/

import Rowsmith.Proofs.Statement.Clauses
import Rowsmith.Proofs.Text.SnakeCase

namespace Rowsmith.Statement

open Text

/-! ## Cutting a text -/

/-- What stands before the first `stop`. -/
def before (stop : Char) (cs : List Char) : List Char :=
  cs.takeWhile (· != stop)

/-- What stands after the first `stop`. -/
def after (stop : Char) (cs : List Char) : List Char :=
  (cs.dropWhile (· != stop)).tail

/-- What stands after the first `n` blanks. -/
def afterWords : (n : Nat) → List Char → List Char
  | 0, cs => cs
  | n + 1, cs => afterWords n (after ' ' cs)

/-- The entries of a list with a comma between each two, without blanks before them. -/
def entries (cs : List Char) : List (List Char) :=
  (cs.splitOn ',').map fun entry => entry.dropWhile (· == ' ')

variable {stop : Char} {xs ys : List Char}

theorem before_append_cons (h : stop ∉ xs) : before stop (xs ++ stop :: ys) = xs := by
  have hxs : ∀ c ∈ xs, (c != stop) = true := fun c hc => by
    simpa using fun heq : c = stop => h (heq ▸ hc)
  simp [before, List.takeWhile_append_of_pos hxs]

theorem after_append_cons (h : stop ∉ xs) : after stop (xs ++ stop :: ys) = ys := by
  have hxs : ∀ c ∈ xs, (c != stop) = true := fun c hc => by
    simpa using fun heq : c = stop => h (heq ▸ hc)
  simp [after, List.dropWhile_append_of_pos hxs]

theorem afterWords_append_cons (n : Nat) (h : ' ' ∉ xs) :
    afterWords (n + 1) (xs ++ ' ' :: ys) = afterWords n ys := by
  rw [afterWords, after_append_cons h]

/-- Commas and blanks between entries are found again, if no entry has a comma
and none starts with a blank. -/
theorem entries_intercalate {parts : List (List Char)} (hparts : parts ≠ [])
    (hcomma : ∀ part ∈ parts, ',' ∉ part) (hblank : ∀ part ∈ parts, part.head? ≠ some ' ') :
    entries ([',', ' '].intercalate parts) = parts := by
  have hkept : ∀ part : List Char, part.head? ≠ some ' ' →
      part.dropWhile (· == ' ') = part := by
    intro part hhead
    cases part with
    | nil => rfl
    | cons c part => simp_all
  induction parts with
  | nil => exact absurd rfl hparts
  | cons part parts ih =>
      have hpart := hcomma part List.mem_cons_self
      have hhead := hkept part (hblank part List.mem_cons_self)
      cases parts with
      | nil => simp [entries, List.splitOn_eq_singleton hpart, hhead]
      | cons second rest =>
          have hrest := ih (by simp) (fun p hp => hcomma p (List.mem_cons_of_mem _ hp))
            fun p hp => hblank p (List.mem_cons_of_mem _ hp)
          rw [entries] at hrest
          rw [entries, List.intercalate_cons_cons, List.append_assoc, List.cons_append,
            List.singleton_append, List.splitOn_append_cons_self_of_not_mem hpart,
            List.map_cons, hhead, List.splitOn_cons_eq_if_modifyHead]
          -- the blank after the comma stands at the head of the next entry
          cases hsplit : ([',', ' '].intercalate (second :: rest)).splitOn ',' with
          | nil => exact absurd hsplit (List.splitOn_ne_nil _ _)
          | cons entry others => simpa [hsplit] using hrest

/-! ## Readers -/

/-- The assignments of an insertion that lists them after `set`. -/
def setEntries (sql : String) : List (List Char) :=
  let clause := afterWords 3 sql.toList
  if before ' ' clause = "set".toList then entries (after ' ' clause) else []

/-- The columns that an insertion gives values for. -/
def insertedColumns (dialect : Dialect) (sql : String) : List String :=
  match dialect with
  | .mySql => (setEntries sql).map fun entry => String.ofList (before '=' entry)
  | .postgres =>
    if '(' ∈ sql.toList then (entries (before ')' (after '(' sql.toList))).map String.ofList
    else []

/-- The placeholders for the values of an insertion. -/
def insertedPlaceholders (dialect : Dialect) (sql : String) : List String :=
  match dialect with
  | .mySql => (setEntries sql).map fun entry => String.ofList (after '=' entry)
  | .postgres =>
    if '(' ∈ sql.toList then
      (entries (before ')' (after '(' (after ')' sql.toList)))).map String.ofList
    else []

/-- The expressions that a selection lists. -/
def selectedExpressions (sql : String) : List String :=
  (entries (afterWords 2 (after ' ' sql.toList).reverse).reverse).map String.ofList

/-! ## Placeholders -/

/-- Splicing a text into another one does not change it. -/
@[simp]
theorem toString_text (s : String) : toString s = s := rfl

/-- Whether `c` stands between assignments only. -/
def isSeparator (c : Char) : Bool :=
  !isNamePart c && c != '=' && c != '?' && c != '$'

theorem not_mem_placeholder (dialect : Dialect) (i : Nat) {c : Char}
    (hc : isSeparator c = true) : c ∉ (dialect.placeholder i).toList := by
  intro hmem
  simp only [isSeparator, Bool.and_eq_true, Bool.not_eq_true', bne_iff_ne] at hc
  obtain ⟨⟨⟨hpart, -⟩, hmark⟩, hdollar⟩ := hc
  cases dialect with
  | mySql => exact hmark (by simpa [Dialect.placeholder] using hmem)
  | postgres =>
      have hdigits : c ∈ Nat.toDigits 10 (i + 1) := by
        simpa [Dialect.placeholder, hdollar] using hmem
      have hdigit : c.isDigit = true :=
        Nat.isDigit_of_mem_toDigits (by omega) (by omega) hdigits
      simp [isNamePart, hdigit] at hpart

theorem not_mem_of_mem_assigned {dialect : Dialect} {first : Nat} {names : List String} {c : Char}
    (hnames : ∀ name ∈ names, IsName name) (hc : isSeparator c = true) {part : String}
    (hpart : part ∈ assigned dialect first names) : c ∉ part.toList := by
  obtain ⟨⟨name, i⟩, hname, rfl⟩ := List.mem_map.mp hpart
  have hplaceholder := not_mem_placeholder dialect i hc
  simp only [isSeparator, Bool.and_eq_true, Bool.not_eq_true', bne_iff_ne] at hc
  have hin := (hnames name (List.fst_mem_of_mem_zipIdx hname)).not_mem hc.1.1.1
  simp [hin, hc.1.1.2, hplaceholder]

/-! ## Insertions -/

/-- The parts of a list in a statement are its entries. -/
theorem entries_toList_intercalate {parts : List String} (hparts : parts ≠ [])
    (hcomma : ∀ part ∈ parts, ',' ∉ part.toList)
    (hblank : ∀ part ∈ parts, part.toList.head? ≠ some ' ') :
    entries (", ".intercalate parts).toList = parts.map String.toList := by
  rw [String.toList_intercalate]
  exact entries_intercalate (by simpa using hparts) (by simpa using hcomma)
    (by simpa using hblank)

/-- Names are entries. -/
theorem entries_toList_intercalate_names {names : List String} (hne : names ≠ [])
    (hnames : ∀ name ∈ names, IsName name) :
    entries (", ".intercalate names).toList = names.map String.toList :=
  entries_toList_intercalate hne (fun name hname => (hnames name hname).not_mem (by decide))
    fun name hname hhead =>
      (hnames name hname).not_mem (by decide) (List.mem_of_mem_head? hhead)

theorem not_mem_toList_intercalate {sep : String} {parts : List String} {c : Char}
    (hsep : c ∉ sep.toList) (hparts : ∀ part ∈ parts, c ∉ part.toList) :
    c ∉ (sep.intercalate parts).toList := by
  rw [String.toList_intercalate]
  intro hmem
  rcases eq_or_mem_of_mem_intercalate hmem with hmem | ⟨cs, hcs, hmem⟩
  · exact hsep hmem
  · obtain ⟨part, hpart, rfl⟩ := List.mem_map.mp hcs
    exact hparts part hpart hmem

section Insertion

variable {table identity : String} {columns : List String}

/-- The list of names ends where the first parenthesis is closed. -/
theorem close_not_mem_intercalate (hnames : ∀ column ∈ columns, IsName column) :
    ')' ∉ (", ".intercalate columns).toList :=
  not_mem_toList_intercalate (by decide) fun name hname => (hnames name hname).not_mem (by decide)

/-- Without columns, an insertion has no list. -/
theorem open_not_mem_insertSql_postgres (htable : IsName table) (hidentity : IsName identity) :
    '(' ∉ (insertSql .postgres table [] identity).toList := by
  simp [insertSql, htable.not_mem (c := '(') (by decide),
    hidentity.not_mem (c := '(') (by decide)]

/-- The text of an insertion with values, cut where its two lists start and end. -/
theorem toList_insertSql_postgres (hcolumns : columns ≠ []) :
    (insertSql .postgres table columns identity).toList =
      "insert into ".toList ++ table.toList ++ [' '] ++ '(' ::
        ((", ".intercalate columns).toList ++ ')' ::
          (" values ".toList ++ '(' ::
            ((", ".intercalate
                ((List.range columns.length).map Dialect.postgres.placeholder)).toList ++ ')' ::
              (" returning ".toList ++ identity.toList)))) := by
  cases columns with
  | nil => exact absurd rfl hcolumns
  | cons column columns => simp [insertSql]

/-- What follows the table where columns are listed after `set`, or not at all. -/
theorem afterWords_insertSql_mySql (htable : IsName table) :
    afterWords 3 (insertSql .mySql table columns identity).toList =
      if columns = [] then "()".toList ++ ' ' :: "values ()".toList
      else "set".toList ++ ' ' :: (", ".intercalate (assigned .mySql 0 columns)).toList := by
  have htext : (insertSql .mySql table columns identity).toList =
      "insert".toList ++ ' ' :: ("into".toList ++ ' ' :: (table.toList ++ ' ' ::
        (if columns = [] then "()".toList ++ ' ' :: "values ()".toList
          else "set".toList ++ ' ' ::
            (", ".intercalate (assigned .mySql 0 columns)).toList))) := by
    cases columns with
    | nil => simp [insertSql]
    | cons column columns => simp [insertSql, assignments_eq]
  rw [htext, afterWords_append_cons 2 (by decide), afterWords_append_cons 1 (by decide),
    afterWords_append_cons 0 (htable.not_mem (by decide)), afterWords]

theorem setEntries_insertSql (htable : IsName table)
    (hnames : ∀ column ∈ columns, IsName column) :
    setEntries (insertSql .mySql table columns identity) =
      (assigned .mySql 0 columns).map String.toList := by
  rw [setEntries, afterWords_insertSql_mySql htable]
  by_cases hcolumns : columns = []
  · subst hcolumns
    rw [if_pos rfl, before_append_cons (by decide)]
    rfl
  · rw [if_neg hcolumns, before_append_cons (by decide), if_pos rfl,
      after_append_cons (by decide)]
    refine entries_toList_intercalate ?_ (fun part hpart => ?_) (fun part hpart => ?_)
    · exact fun hnil => hcolumns (by simpa [assigned] using hnil)
    · exact not_mem_of_mem_assigned hnames (by decide) hpart
    · exact fun hhead =>
        not_mem_of_mem_assigned hnames (by decide) hpart (List.mem_of_mem_head? hhead)

/-- An assignment is read back as a name and a placeholder. -/
theorem map_before_assigned (dialect : Dialect) (first : Nat)
    (hnames : ∀ column ∈ columns, IsName column) :
    (assigned dialect first columns).map (fun part => String.ofList (before '=' part.toList)) =
      columns := by
  induction columns generalizing first with
  | nil => rfl
  | cons column columns ih =>
      have hcolumn := (hnames column List.mem_cons_self).not_mem (c := '=') (by decide)
      have hrest := ih (first + 1) fun other hother => hnames other (List.mem_cons_of_mem _ hother)
      simp [hrest, before_append_cons hcolumn]

theorem map_after_assigned (dialect : Dialect) (first : Nat)
    (hnames : ∀ column ∈ columns, IsName column) :
    (assigned dialect first columns).map (fun part => String.ofList (after '=' part.toList)) =
      (List.range' first columns.length).map dialect.placeholder := by
  induction columns generalizing first with
  | nil => rfl
  | cons column columns ih =>
      have hcolumn := (hnames column List.mem_cons_self).not_mem (c := '=') (by decide)
      have hrest := ih (first + 1) fun other hother => hnames other (List.mem_cons_of_mem _ hother)
      simp [hrest, after_append_cons hcolumn, List.range'_succ]

theorem insertedColumns_insertSql (dialect : Dialect) (htable : IsName table)
    (hidentity : IsName identity) (hnames : ∀ column ∈ columns, IsName column) :
    insertedColumns dialect (insertSql dialect table columns identity) = columns := by
  cases dialect with
  | mySql =>
      rw [insertedColumns, setEntries_insertSql htable hnames, List.map_map]
      exact map_before_assigned .mySql 0 hnames
  | postgres =>
      cases columns with
      | nil => rw [insertedColumns, if_neg (open_not_mem_insertSql_postgres htable hidentity)]
      | cons column columns =>
          have hopen : '(' ∉ "insert into ".toList ++ table.toList ++ [' '] := by
            simp [htable.not_mem (c := '(') (by decide)]
          rw [insertedColumns, toList_insertSql_postgres (by simp), if_pos (by simp),
            after_append_cons hopen, before_append_cons (close_not_mem_intercalate hnames),
            entries_toList_intercalate_names (by simp) hnames, List.map_map]
          simp

example :
    insertedColumns .postgres "insert into t (a, b) values ($1, $2) returning id" = ["a", "b"] := by
  decide

/-- There is one placeholder for each column, and they are numbered from the
first on. -/
theorem insertedPlaceholders_insertSql (dialect : Dialect) (htable : IsName table)
    (hidentity : IsName identity) (hnames : ∀ column ∈ columns, IsName column) :
    insertedPlaceholders dialect (insertSql dialect table columns identity) =
      (List.range columns.length).map dialect.placeholder := by
  cases dialect with
  | mySql =>
      rw [insertedPlaceholders, setEntries_insertSql htable hnames, List.map_map,
        List.range_eq_range']
      exact map_after_assigned .mySql 0 hnames
  | postgres =>
      cases columns with
      | nil =>
          rw [insertedPlaceholders, if_neg (open_not_mem_insertSql_postgres htable hidentity)]
          rfl
      | cons column columns =>
          have hclose : ')' ∉ "insert into ".toList ++ table.toList ++ [' '] ++
              '(' :: (", ".intercalate (column :: columns)).toList := by
            simpa [htable.not_mem (c := ')') (by decide)] using close_not_mem_intercalate hnames
          have hplaceholder : ∀ c, isSeparator c = true →
              ∀ p ∈ (List.range (column :: columns).length).map Dialect.postgres.placeholder,
                c ∉ p.toList := by
            intro c hc p hp
            obtain ⟨i, -, rfl⟩ := List.mem_map.mp hp
            exact not_mem_placeholder .postgres i hc
          rw [insertedPlaceholders, toList_insertSql_postgres (by simp), if_pos (by simp),
            ← List.cons_append, ← List.append_assoc, after_append_cons hclose,
            after_append_cons (by decide),
            before_append_cons
              (not_mem_toList_intercalate (by decide) (hplaceholder ')' (by decide))),
            entries_toList_intercalate (by simp) (hplaceholder ',' (by decide))
              (fun p hp hhead =>
                hplaceholder ' ' (by decide) p hp (List.mem_of_mem_head? hhead)),
            List.map_map]
          simp

end Insertion

/-! ## Selections -/

theorem selectedExpressions_selectSql {table : String} {columns : List (String × Projection)}
    (htable : IsName table) (hcolumns : columns ≠ []) (hnames : ∀ c ∈ columns, IsName c.1) :
    selectedExpressions (selectSql table columns) = columns.map fun c => c.2.render c.1 := by
  have htext : (selectSql table columns).toList =
      "select".toList ++ ' ' ::
        ((", ".intercalate (columns.map fun c => c.2.render c.1)).toList ++ ' ' ::
          ("from".toList ++ ' ' :: table.toList)) := by
    simp [selectSql]
  have hreverse : (after ' ' (selectSql table columns).toList).reverse =
      table.toList.reverse ++ ' ' :: ("morf".toList ++ ' ' ::
        (", ".intercalate (columns.map fun c => c.2.render c.1)).toList.reverse) := by
    rw [htext, after_append_cons (by decide)]
    simp
  have hblank : ' ' ∉ table.toList.reverse := by
    simpa using htable.not_mem (c := ' ') (by decide)
  rw [selectedExpressions, hreverse, afterWords_append_cons 1 hblank,
    afterWords_append_cons 0 (by decide), afterWords, List.reverse_reverse,
    entries_toList_intercalate (by simpa using hcolumns)]
  · simp
  · intro part hpart
    obtain ⟨⟨name, p⟩, hname, rfl⟩ := List.mem_map.mp hpart
    have hcomma := (hnames _ hname).not_mem (c := ',') (by decide)
    cases p <;> simpa [Projection.render] using hcomma
  · intro part hpart
    obtain ⟨⟨name, p⟩, hname, rfl⟩ := List.mem_map.mp hpart
    cases p with
    | plain => exact fun hhead =>
        (hnames _ hname).not_mem (by decide) (List.mem_of_mem_head? hhead)
    | bool => simp [Projection.render]
    | trimmed => simp [Projection.render]

end Rowsmith.Statement
