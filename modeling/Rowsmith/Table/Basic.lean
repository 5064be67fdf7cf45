/-
# Tables

The table of an entity: one column for each field, one of which is the identity. The definition of
a table is written as a statement of either dialect.
-/

import Rowsmith.Table.ColumnType
import Rowsmith.Table.Resolution

namespace Rowsmith

/-- A column, made from a field. -/
structure Column where
  name : String
  /-- The name of the field. -/
  field : String
  type : ColumnType
  kind : Primitive
  via : Via
  primaryKey : Bool
  autoIncrement : Bool
  deriving DecidableEq, Repr

/-- The table of an entity. -/
structure Table where
  entity : TypePath
  name : String
  columns : List Column
  deriving DecidableEq, Repr

namespace Table

/-- The identity: the primary key, or the first column of a table without one. -/
def identity? (t : Table) : Option Column :=
  (t.columns.find? Column.primaryKey).or t.columns.head?

/-- The name of the identity. -/
def identityName (t : Table) : String :=
  (t.identity?.map Column.name).getD ""

/-- The columns that an insertion gives values for: all but the identity. -/
def insertColumns (t : Table) : List Column :=
  t.columns.filter fun c => !c.primaryKey

/-- Whether `name` is a column. -/
def hasColumn (t : Table) (name : String) : Bool :=
  t.columns.any fun c => c.name == name

/-- The line that defines a column. -/
def columnLine (dialect : Dialect) (c : Column) : String :=
  let head := s!"  {c.name} {c.type.render dialect}"
  if c.autoIncrement then
    match dialect with
    | .mySql => head ++ " NOT NULL AUTO_INCREMENT"
    | .postgres => head ++ " GENERATED BY DEFAULT AS IDENTITY"
  else head ++ " NOT NULL"

/-- The statement that creates the table. -/
def createSql (t : Table) (dialect : Dialect) : String :=
  let lines := t.columns.map (columnLine dialect) ++ [s!"  PRIMARY KEY ({t.identityName})"]
  s!"CREATE TABLE {t.name} (\n" ++ ",\n".intercalate lines ++ "\n);\n"

end Table

end Rowsmith
