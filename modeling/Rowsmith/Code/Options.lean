/-
# Options of emitted code

What is emitted for each table, and how the emitted functions reach the database.
-/

import Rowsmith.Table.Basic

namespace Rowsmith.Code

/-- How an emitted function gets its connection. -/
inductive ConnectionMode where
  /-- As its first argument. -/
  | explicit
  /-- From the context that is its first argument. -/
  | context
  deriving DecidableEq, Repr

/-- What is emitted for each table. -/
structure Options where
  dialect : Dialect := .postgres
  connection : ConnectionMode := .explicit
  /-- The type of the connection that a context carries. -/
  contextClient : String := "dbcrud::tokio_postgres::Client"
  /-- Rows that a selection may answer. -/
  maxRows : Nat := 1000
  /-- Columns that an insertion sets to the current time. -/
  autoTimestamps : List String := ["inserted_at", "updated_at"]
  schema : Bool := true
  crud : Bool := true
  tests : Bool := true
  deriving DecidableEq, Repr

/-- Whether an insertion sets the column to the current time. -/
def Options.isAutoTimestamp (o : Options) (c : Column) : Bool :=
  !c.primaryKey && c.kind == .timestamp && o.autoTimestamps.contains c.name

end Rowsmith.Code
