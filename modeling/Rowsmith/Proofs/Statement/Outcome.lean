/-
# What the statement builders answer

A builder checks the names of its payloads in order and answers either a
statement or the first name that is no column. `Answers` lists the three
outcomes as a relation, without the order of evaluation of the builders, and
`Spells` says what a statement consists of. The main result is that selection,
removal and change each answer exactly what the relation allows; a change
without new values needs no statement and looks at neither payload.
-/

import Rowsmith.Proofs.Statement.Clauses

namespace Rowsmith

namespace Statement

/-- Every name is a column. -/
def AllColumns (isColumn : String → Bool) (names : List String) : Prop :=
  ∀ name ∈ names, isColumn name = true

/-- `name` is the first of `names` that is no column. -/
def FirstUnknown (isColumn : String → Bool) (names : List String) (name : String) : Prop :=
  ∃ before after, names = before ++ name :: after ∧ AllColumns isColumn before ∧
    isColumn name = false

/-- The text of `s` is `head`, the change of `updates` and the condition
`query`, with one numbering of placeholders through both: one for each name. The
same text arises from the pieces that hold each value behind its own name, and
the values of `s` are those of the pieces in order. -/
structure Spells (dialect : Dialect) (head : String) (updates query : Fields)
    (s : Statement) : Prop where
  text : s.sql = head ++ ", ".intercalate (assigned dialect 0 updates.keys) ++
    whereClause dialect updates.keys.length query.keys
  count : s.values.length = updates.keys.length + query.keys.length
  pieces : s.sql = writePieces dialect 0
    (.text head :: fieldPieces ", " updates.entries ++ wherePieces query.entries)
  values : s.values = placedValues
    (.text head :: fieldPieces ", " updates.entries ++ wherePieces query.entries)

/-- The outcomes of a builder that checks `updates` before `query`. -/
inductive Answers (isColumn : String → Bool) (operation : Operation) (updates query : Fields)
    (Written : Statement → Prop) : Except AccessError Statement → Prop
  | statement (s : Statement) :
      AllColumns isColumn updates.keys → AllColumns isColumn query.keys → Written s →
      Answers isColumn operation updates query Written (.ok s)
  | unknownUpdate (name : String) :
      FirstUnknown isColumn updates.keys name →
      Answers isColumn operation updates query Written
        (.error (.unknownField operation .update name))
  | unknownQuery (name : String) :
      AllColumns isColumn updates.keys → FirstUnknown isColumn query.keys name →
      Answers isColumn operation updates query Written
        (.error (.unknownField operation .query name))

/-! ## Checking names -/

theorem allColumns_iff_find? {isColumn : String → Bool} {names : List String} :
    AllColumns isColumn names ↔ names.find? (fun name => !isColumn name) = none := by
  simp [AllColumns]

theorem firstUnknown_iff_find? {isColumn : String → Bool} {names : List String} {name : String} :
    FirstUnknown isColumn names name ↔
      names.find? (fun name => !isColumn name) = some name := by
  rw [List.find?_eq_some_iff_append]
  constructor
  · rintro ⟨before, after, hnames, hbefore, hunknown⟩
    exact ⟨by simp [hunknown], before, after, hnames, fun k hk => by simp [hbefore k hk]⟩
  · rintro ⟨hunknown, before, after, hnames, hbefore⟩
    exact ⟨before, after, hnames, fun k hk => by simpa using hbefore k hk,
      by simpa using hunknown⟩

/-- Names are all columns, or one of them is the first that is none. -/
theorem allColumns_or_firstUnknown (isColumn : String → Bool) (names : List String) :
    AllColumns isColumn names ∨ ∃ name, FirstUnknown isColumn names name := by
  cases hfind : names.find? (fun name => !isColumn name) with
  | none => exact .inl (allColumns_iff_find?.mpr hfind)
  | some name => exact .inr ⟨name, firstUnknown_iff_find?.mpr hfind⟩

theorem AllColumns.not_firstUnknown {isColumn : String → Bool} {names : List String}
    {name : String} (h : AllColumns isColumn names) : ¬ FirstUnknown isColumn names name := by
  rw [firstUnknown_iff_find?, allColumns_iff_find?.mp h]
  simp

theorem FirstUnknown.unique {isColumn : String → Bool} {names : List String}
    {first second : String} (hfirst : FirstUnknown isColumn names first)
    (hsecond : FirstUnknown isColumn names second) : first = second := by
  rw [firstUnknown_iff_find?] at hfirst hsecond
  exact Option.some.inj (hfirst.symm.trans hsecond)

theorem validate_of_allColumns (operation : Operation) (role : FieldRole)
    {isColumn : String → Bool} {fields : Fields} (h : AllColumns isColumn fields.keys) :
    validate operation role isColumn fields = .ok () := by
  rw [validate, allColumns_iff_find?.mp h]

theorem validate_of_firstUnknown (operation : Operation) (role : FieldRole)
    {isColumn : String → Bool} {fields : Fields} {name : String}
    (h : FirstUnknown isColumn fields.keys name) :
    validate operation role isColumn fields = .error (.unknownField operation role name) := by
  rw [validate, firstUnknown_iff_find?.mp h]

/-! ## Outcomes -/

theorem Spells.unique {dialect : Dialect} {head : String} {updates query : Fields}
    {first second : Statement} (hfirst : Spells dialect head updates query first)
    (hsecond : Spells dialect head updates query second) : first = second := by
  obtain ⟨sql, values⟩ := first
  obtain ⟨sql', values'⟩ := second
  simp only [Statement.mk.injEq]
  exact ⟨hfirst.text.trans hsecond.text.symm, hfirst.values.trans hsecond.values.symm⟩

/-- The statement that is put together from the texts of its clauses and the
values of its payloads is the one that its pieces spell. -/
theorem spells_mk (dialect : Dialect) (head : String) (updates query : Fields) :
    Spells dialect head updates query
      ⟨head ++ ", ".intercalate (assigned dialect 0 updates.keys) ++
          whereClause dialect updates.keys.length query.keys,
        updates.values ++ query.values⟩ where
  text := rfl
  count := by simp only [List.length_append, Fields.values, Fields.keys, List.length_map]
  pieces := by
    simp only [List.cons_append, writePieces, writePieces_append, writePieces_fieldPieces,
      writePieces_wherePieces, placedValues_fieldPieces, Fields.keys, List.length_map, Nat.zero_add,
      String.append_assoc]
  values := by
    simp only [List.cons_append, placedValues, placedValues_append, placedValues_fieldPieces,
      placedValues_wherePieces, Fields.values]

section

variable {isColumn : String → Bool} {operation : Operation} {updates query : Fields}
  {Written : Statement → Prop}

/-- Payloads and a statement that is unique leave one outcome. -/
theorem Answers.unique (hwritten : ∀ s s', Written s → Written s' → s = s')
    {first second : Except AccessError Statement}
    (hfirst : Answers isColumn operation updates query Written first)
    (hsecond : Answers isColumn operation updates query Written second) :
    first = second := by
  cases hfirst with
  | statement s hupdates hquery hs =>
      cases hsecond with
      | statement s' _ _ hs' => rw [hwritten s s' hs hs']
      | unknownUpdate name h => exact absurd h hupdates.not_firstUnknown
      | unknownQuery name _ h => exact absurd h hquery.not_firstUnknown
  | unknownUpdate name hname =>
      cases hsecond with
      | statement s h _ _ => exact absurd hname h.not_firstUnknown
      | unknownUpdate name' h => rw [hname.unique h]
      | unknownQuery name' h _ => exact absurd hname h.not_firstUnknown
  | unknownQuery name hupdates hname =>
      cases hsecond with
      | statement s _ h _ => exact absurd hname h.not_firstUnknown
      | unknownUpdate name' h => exact absurd h hupdates.not_firstUnknown
      | unknownQuery name' _ h => rw [hname.unique h]

/-- An outcome that is allowed is the only one. -/
theorem Answers.eq_iff {dialect : Dialect} {head : String}
    {answer other : Except AccessError Statement}
    (h : Answers isColumn operation updates query (Spells dialect head updates query) answer) :
    answer = other ↔
      Answers isColumn operation updates query (Spells dialect head updates query) other :=
  ⟨fun heq => heq ▸ h, fun hother => h.unique (fun _ _ hs hs' => hs.unique hs') hother⟩

end

/-- A builder without new values answers what its condition allows. -/
theorem answers_conditional (operation : Operation) (dialect : Dialect) (head : String)
    (query : Fields) (isColumn : String → Bool) :
    Answers isColumn operation .empty query (Spells dialect head .empty query)
      (conditional operation dialect head query isColumn) := by
  have hempty : AllColumns isColumn Fields.empty.keys := fun _ h => nomatch h
  rcases allColumns_or_firstUnknown isColumn query.keys with hquery | ⟨name, hname⟩
  · rw [conditional, validate_of_allColumns operation .query hquery, condition_eq]
    have hspells := spells_mk dialect head .empty query
    simp [Fields.empty, Fields.keys, Fields.values] at hspells
    exact .statement _ hempty hquery hspells
  · rw [conditional, validate_of_firstUnknown operation .query hname]
    exact .unknownQuery name hempty hname

/-- Without new values there is nothing to check and nothing to change. -/
theorem update_of_keys_nil (dialect : Dialect) (table : String) {updates : Fields}
    (query : Fields) (isColumn : String → Bool) (h : updates.keys = []) :
    update dialect table updates query isColumn = .ok none := by
  have hempty : updates.isEmpty = true := by
    simpa [Fields.isEmpty, Fields.keys] using h
  simp only [update, hempty]
  rfl

/-- A builder with new values answers what they and its condition allow. -/
theorem answers_update (dialect : Dialect) (table : String) (updates query : Fields)
    (isColumn : String → Bool) (hupdates : updates.keys ≠ []) :
    ∃ answer, update dialect table updates query isColumn = answer.map some ∧
      Answers isColumn .update updates query
        (Spells dialect ("update " ++ table ++ " set ") updates query) answer := by
  have hnonempty : updates.isEmpty = false := by
    simpa [Fields.isEmpty, Fields.keys] using hupdates
  rcases allColumns_or_firstUnknown isColumn updates.keys with hall | ⟨name, hname⟩
  · rcases allColumns_or_firstUnknown isColumn query.keys with hquery | ⟨name, hname⟩
    · refine ⟨_, ?_, .statement _ hall hquery (spells_mk dialect _ updates query)⟩
      simp only [update, hnonempty, validate_of_allColumns .update .update hall,
        validate_of_allColumns .update .query hquery, assignments_eq, condition_eq]
      simp only [Nat.zero_add]
      rfl
    · refine ⟨_, ?_, .unknownQuery name hall hname⟩
      simp only [update, hnonempty, validate_of_allColumns .update .update hall,
        validate_of_firstUnknown .update .query hname]
      rfl
  · refine ⟨_, ?_, .unknownUpdate name hname⟩
    simp only [update, hnonempty, validate_of_firstUnknown .update .update hname]
    rfl

/-- A statement without new values spells its condition, and names columns only. -/
theorem spells_of_conditional {operation : Operation} {dialect : Dialect} {head : String}
    {query : Fields} {isColumn : String → Bool} {s : Statement}
    (h : conditional operation dialect head query isColumn = .ok s) :
    AllColumns isColumn query.keys ∧ Spells dialect head .empty query s := by
  have hanswers := answers_conditional operation dialect head query isColumn
  rw [h] at hanswers
  cases hanswers with
  | statement _ _ hquery hspells => exact ⟨hquery, hspells⟩

/-- A change spells its new values, of which there are some, and its condition, and names
columns only. -/
theorem spells_of_update {dialect : Dialect} {table : String} {updates query : Fields}
    {isColumn : String → Bool} {s : Statement}
    (h : update dialect table updates query isColumn = .ok (some s)) :
    updates.keys ≠ [] ∧ AllColumns isColumn updates.keys ∧ AllColumns isColumn query.keys ∧
      Spells dialect ("update " ++ table ++ " set ") updates query s := by
  by_cases hupdates : updates.keys = []
  · rw [update_of_keys_nil dialect table query isColumn hupdates] at h
    cases h
  · obtain ⟨answer, hanswer, hallowed⟩ :=
      answers_update dialect table updates query isColumn hupdates
    rw [h] at hanswer
    cases hallowed with
    | statement s' hchanged hquery hspells =>
        cases hanswer
        exact ⟨hupdates, hchanged, hquery, hspells⟩
    | unknownUpdate name _ => cases hanswer
    | unknownQuery name _ _ => cases hanswer

/-- One numbering of placeholders runs through the change and its condition. -/
example :
    update .postgres "t" ⟨[("a", .bool true), ("b", .text "x")]⟩ ⟨[("id", .int64 7)]⟩
        (["id", "a", "b"].contains ·) =
      .ok (some ⟨"update t set a=$1, b=$2 where id=$3", [.bool true, .text "x", .int64 7]⟩) := by
  rfl

end Statement

end Rowsmith
