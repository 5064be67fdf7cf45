/-
# Building statements

The text of a statement with the values for its placeholders. Names are written as they are; every
name of a payload is checked against the columns first, and no value is part of the text.
-/

import Rowsmith.Access.Error
import Rowsmith.Statement.Dialect
import Rowsmith.Statement.Fields

namespace Rowsmith

/-- A statement with the values of its placeholders, in order. -/
structure Statement where
  sql : String
  values : List Value
  deriving DecidableEq

namespace Statement

/-- The statement for at most `n` rows. -/
def withLimit (s : Statement) (n : Nat) : Statement :=
  { s with sql := s.sql ++ s!" limit {n}" }

/-- Writes each name with a placeholder of its own, and `sep` between each two. The placeholders
that are left come second. -/
def assignments (sep : String) : List String → Placeholders → String × Placeholders
  | [], ph => ("", ph)
  | [name], ph =>
    let (p, ph) := ph.next
    (name ++ "=" ++ p, ph)
  | name :: names, ph =>
    let (p, ph) := ph.next
    let (rest, ph) := assignments sep names ph
    (name ++ "=" ++ p ++ sep ++ rest, ph)

/-- Writes the condition that every field of `query` has its value; nothing for no field. -/
def condition (query : Fields) (ph : Placeholders) : String :=
  if query.isEmpty then "" else " where " ++ (assignments " and " query.keys ph).1

/-- Checks that every name of a payload is a column. -/
def validate (operation : Operation) (role : FieldRole) (isColumn : String → Bool)
    (fields : Fields) : Except AccessError Unit :=
  match fields.keys.find? fun name => !isColumn name with
  | some name => .error (.unknownField operation role name)
  | none => .ok ()

/-- The statement that starts with `head` and goes on with the condition `query`. -/
def conditional (operation : Operation) (dialect : Dialect) (head : String) (query : Fields)
    (isColumn : String → Bool) : Except AccessError Statement := do
  validate operation .query isColumn query
  return ⟨head ++ condition query ⟨dialect, 0⟩, query.values⟩

/-- The selection `base` of the rows that `query` describes. -/
def select (dialect : Dialect) (base : String) (query : Fields) (isColumn : String → Bool) :
    Except AccessError Statement :=
  conditional .select dialect base query isColumn

/-- The removal of the rows of `table` that `query` describes. -/
def delete (dialect : Dialect) (table : String) (query : Fields) (isColumn : String → Bool) :
    Except AccessError Statement :=
  conditional .delete dialect s!"delete from {table}" query isColumn

/-- The change of the rows of `table` that `query` describes. No statement is needed if there is
nothing to change; the payloads are not checked then. -/
def update (dialect : Dialect) (table : String) (updates query : Fields)
    (isColumn : String → Bool) : Except AccessError (Option Statement) := do
  if updates.isEmpty then return none
  validate .update .update isColumn updates
  validate .update .query isColumn query
  let (changes, ph) := assignments ", " updates.keys ⟨dialect, 0⟩
  return some ⟨s!"update {table} set " ++ changes ++ condition query ph, updates.values ++ query.values⟩

/-- The insertion of a row with values for `columns`, which answers the new value of `identity`
where the dialect can. -/
def insertSql (dialect : Dialect) (table : String) (columns : List String) (identity : String) :
    String :=
  match dialect, columns with
  | .mySql, [] => s!"insert into {table} () values ()"
  | .mySql, columns =>
    s!"insert into {table} set " ++ (assignments ", " columns ⟨dialect, 0⟩).1
  | .postgres, [] => s!"insert into {table} default values returning {identity}"
  | .postgres, columns =>
    let values := (List.range columns.length).map dialect.placeholder
    s!"insert into {table} (" ++ ", ".intercalate columns ++ ") values (" ++
      ", ".intercalate values ++ s!") returning {identity}"

/-- How a column is selected. -/
inductive Projection where
  | plain
  /-- As a truth value, whichever type of the database holds it. -/
  | bool
  /-- Without the blanks that fill a text of fixed width. -/
  | trimmed
  deriving DecidableEq, Repr

/-- Writes a selected column. -/
def Projection.render (p : Projection) (column : String) : String :=
  match p with
  | .plain => column
  | .bool => s!"({column} = '1')"
  | .trimmed => s!"rtrim({column})"

/-- The selection of columns of all rows of `table`. -/
def selectSql (table : String) (columns : List (String × Projection)) : String :=
  "select " ++ ", ".intercalate (columns.map fun c => c.2.render c.1) ++ s!" from {table}"

end Statement

end Rowsmith
