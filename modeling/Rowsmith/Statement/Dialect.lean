/-
# Dialects

The two dialects in which statements are written, and the placeholders that each has for the values
of a statement.
-/

import Rowsmith.Text.Blank

namespace Rowsmith

/-- A dialect of the query language. -/
inductive Dialect where
  | mySql
  | postgres
  deriving DecidableEq, Repr

/-- A text that names no dialect, in lower case and without blanks at its ends. -/
structure UnknownDialect where
  text : String
  deriving DecidableEq, Repr

/-- The wording of the error. -/
def UnknownDialect.message (e : UnknownDialect) : String :=
  s!"unknown dialect: {e.text} (expected mysql or postgres)"

namespace Dialect

/-- The dialect that is meant where none is named. -/
def default : Dialect :=
  postgres

/-- The name of a dialect. -/
def name : Dialect → String
  | mySql => "mysql"
  | postgres => "postgres"

/-- The dialect that `text` names. Letters count alike in both cases, and blanks at the ends count
for nothing. -/
def ofText (text : String) : Except UnknownDialect Dialect :=
  match (Text.trimmed text).map Char.toLower with
  | "mysql" => .ok mySql
  | "postgres" | "postgresql" | "pg" => .ok postgres
  | other => .error ⟨other⟩

/-- The placeholder for the value at position `i` of a statement, counted from zero. -/
def placeholder (d : Dialect) (i : Nat) : String :=
  match d with
  | mySql => "?"
  | postgres => s!"${i + 1}"

end Dialect

/-- Placeholders handed out in the order of a statement. -/
structure Placeholders where
  dialect : Dialect
  count : Nat := 0
  deriving DecidableEq, Repr

/-- The next placeholder, and those after it. -/
def Placeholders.next (p : Placeholders) : String × Placeholders :=
  (p.dialect.placeholder p.count, { p with count := p.count + 1 })

end Rowsmith
