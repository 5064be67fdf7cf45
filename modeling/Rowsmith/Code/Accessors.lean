/-
# Accessors of a table

The emitted module of functions that insert, select, update and delete the rows of a table.
-/

import Rowsmith.Code.Basic
import Rowsmith.Code.Naming
import Rowsmith.Code.Options
import Rowsmith.Statement.Build
import Rowsmith.Text.Quoted

namespace Rowsmith.Code

open Text

/-! ## What is bound and read -/

/-- What an insertion binds to a column. -/
inductive Argument where
  /-- The current time. -/
  | now
  /-- The value of a field. -/
  | field (name : String)
  /-- The value inside the wrapper that a field holds. -/
  | inner (name : String)
  deriving DecidableEq, Repr

/-- The expression of an argument. -/
def Argument.render : Argument → String
  | now => "&now"
  | field name => "&d." ++ identifier name
  | inner name => "&d." ++ identifier name ++ ".0"

/-- What an insertion binds to `c`. -/
def argument (o : Options) (c : Column) : Argument :=
  if o.isAutoTimestamp c then .now
  else
    match c.via with
    | .newtype _ => .inner c.field
    | _ => .field c.field

/-- What an insertion binds, in order. -/
def insertArguments (t : Table) (o : Options) : List Argument :=
  t.insertColumns.map (argument o)

/-- A field that is set from a row. -/
structure Initialiser where
  field : String
  /-- Position in the row. -/
  index : Nat
  /-- The wrapper around the value. -/
  wrapper : Option String
  deriving DecidableEq, Repr

/-- The line that sets a field. -/
def Initialiser.render (i : Initialiser) : String :=
  let value := s!"row.try_get({i.index})?"
  let value := match i.wrapper with
    | some name => s!"{name}({value})"
    | none => value
  s!"{identifier i.field}: {value},"

/-- The fields that are set from a row, in order. -/
def initialisers (t : Table) : List Initialiser :=
  t.columns.zipIdx.map fun (c, i) => ⟨c.field, i, match c.via with
    | .newtype path => some path.name
    | _ => none⟩

/-- How a column is selected. -/
def projection (o : Options) (c : Column) : Statement.Projection :=
  match c.kind with
  | .bool => .bool
  | .text => if c.type.isBlankPadded o.dialect then .trimmed else .plain
  | _ => .plain

/-- The statement that inserts a row. -/
def insertSql (t : Table) (o : Options) : String :=
  Statement.insertSql o.dialect t.name (t.insertColumns.map Column.name) t.identityName

/-- The statement that selects all rows. -/
def selectSql (t : Table) (o : Options) : String :=
  Statement.selectSql t.name (t.columns.map fun c => (c.name, projection o c))

/-! ## Constants -/

/-- The name of a dialect in emitted code. -/
def dialectName : Dialect → String
  | .mySql => "Dialect::MySql"
  | .postgres => "Dialect::Postgres"

/-- The constants of the module. -/
def constants (t : Table) (o : Options) : List Constant :=
  let columns := ", ".intercalate (t.columns.map fun c => quoted c.name)
  [ { isPublic := true, name := "TABLE", type := "&str", value := quoted t.name },
    { isPublic := true, name := "COLUMNS", type := "&[&str]", value := "&[" ++ columns ++ "]" },
    { isPublic := true, name := "IDENTITY", type := "&str", value := quoted t.identityName },
    { doc := ["Upper bound on rows returned by one select."]
      isPublic := true, name := "MAX_ROWS", type := "usize", value := toString o.maxRows },
    { name := "DIALECT", type := "Dialect", value := dialectName o.dialect },
    { name := "INSERT_SQL", type := "&str", value := quoted (insertSql t o) },
    { name := "SELECT_SQL", type := "&str", value := quoted (selectSql t o) } ]

/-! ## Functions -/

/-- The parameter that leads to the connection. -/
def connectionParam (o : Options) : String × String :=
  match o.connection with
  | .explicit => ("db", "&impl GenericClient")
  | .context => ("cx", "&DbContext")

/-- The statements that get the connection. -/
def connectionPrelude (o : Options) : List Stmt :=
  match o.connection with
  | .explicit => []
  | .context => [.line s!"let db = cx.db::<{o.contextClient}>()?;"]

/-- The type of the identity. -/
def identityType (t : Table) : String :=
  ((t.identity?.map fun c => c.kind.typeName).getD "")

/-- The payload that describes the row with the identity `id`. -/
def identityFields (t : Table) : String :=
  s!"&Fields::new().with({quoted t.identityName}, id)"

/-- A list in words. -/
def inWords (names : List String) : String :=
  " and ".intercalate (names.map fun n => "`" ++ n ++ "`")

/-- The function that inserts a row. -/
def insertFunction (t : Table) (o : Options) : Function :=
  let auto := (t.insertColumns.filter o.isAutoTimestamp).map Column.name
  let stamped := if auto.length = 1 then " is" else " are"
  { doc := ["Inserts `d` and returns the id assigned to the new row."] ++
      if auto.isEmpty then []
      else ["", inWords auto ++ stamped ++ " set to the current time; the values on `d` are ignored."]
    isPublic := true
    isAsync := true
    name := "insert"
    params := [connectionParam o, ("d", "&" ++ t.entity.name)]
    result := some s!"CrudResult<{identityType t}>"
    body := connectionPrelude o ++
      (if auto.isEmpty then [] else [.line "let now = dbcrud::clock::now();"]) ++
      [ .block "let row = GenericClient::query_one(db, INSERT_SQL, &["
          ((insertArguments t o).map fun a => .line (a.render ++ ","))
          "]).await?;",
        .line "Ok(row.try_get(0)?)" ] }

/-- The function that selects rows. -/
def selectFunction (t : Table) (o : Options) : Function where
  doc := ["Selects every row whose columns equal the values in `query`.", "",
    "An empty `query` selects the whole table."]
  isPublic := true
  isAsync := true
  name := "select"
  params := [connectionParam o, ("query", "&Fields")]
  result := some s!"CrudResult<Vec<{t.entity.name}>>"
  body := connectionPrelude o ++
    [ .line "let stmt = qb::select(DIALECT, SELECT_SQL, query, model_contains_field)?",
      .line "    .with_limit(MAX_ROWS + 1);",
      .line "let rows = GenericClient::query(db, &stmt.sql, &stmt.params()).await?;",
      .braced "if rows.len() > MAX_ROWS"
        [.line "return Err(CrudError::TooManyRows \x7b max: MAX_ROWS \x7d);"],
      .line "rows.iter().map(from_row).collect()" ]

/-- The function that selects the row with an identity. -/
def selectByIdFunction (t : Table) (o : Options) : Function where
  doc := ["Selects the row with the given id."]
  isPublic := true
  isAsync := true
  name := "select_by_id"
  params := [connectionParam o, ("id", identityType t)]
  result := some s!"CrudResult<{t.entity.name}>"
  body :=
    [ .line s!"let mut rows = select({(connectionParam o).1}, {identityFields t}).await?;",
      .block "match rows.len() \x7b"
        [ .line ("0 => Err(CrudError::NotFound \x7b op: Operation::SelectById, " ++
            "id: i64::from(id) \x7d),"),
          .line "1 => Ok(rows.remove(0)),",
          .line ("count => Err(CrudError::Ambiguous \x7b op: Operation::SelectById, " ++
            "count \x7d),") ]
        "\x7d" ]

/-- The function that updates rows. -/
def updateFunction (o : Options) : Function where
  doc :=
    ["Sets `updates` on every row matching `query` and returns the number of rows changed.", "",
      "Does nothing when `updates` is empty."]
  isPublic := true
  isAsync := true
  name := "update"
  params := [connectionParam o, ("updates", "&Fields"), ("query", "&Fields")]
  result := some "CrudResult<u64>"
  body := connectionPrelude o ++
    [ .block ("let Some(stmt) = qb::update(DIALECT, TABLE, updates, query, " ++
          "model_contains_field)? else \x7b")
        [.line "return Ok(0);"] "\x7d;",
      .line "GenericClient::execute(db, &stmt.sql, &stmt.params()).await" ]

/-- The statements that refuse a change by identity that met no row. -/
def refuseNoRow (operation : String) : List Stmt :=
  [ .braced "if n == 0"
      [.line ("return Err(CrudError::NoSuchId \x7b op: Operation::" ++ operation ++ " \x7d);")],
    .line "Ok(())" ]

/-- The function that updates the row with an identity. -/
def updateByIdFunction (t : Table) (o : Options) : Function where
  isPublic := true
  isAsync := true
  name := "update_by_id"
  params := [connectionParam o, ("id", identityType t), ("updates", "&Fields")]
  result := some "CrudResult<()>"
  body :=
    [ .braced "if updates.is_empty()" [.line "return Ok(());"],
      .line s!"let n = update({(connectionParam o).1}, updates, {identityFields t}).await?;" ] ++
    refuseNoRow "UpdateById"

/-- The function that deletes rows. -/
def deleteFunction (o : Options) : Function where
  doc := ["Deletes every row matching `query`; an empty `query` empties the table."]
  isPublic := true
  isAsync := true
  name := "delete"
  params := [connectionParam o, ("query", "&Fields")]
  result := some "CrudResult<u64>"
  body := connectionPrelude o ++
    [ .line "let stmt = qb::delete(DIALECT, TABLE, query, model_contains_field)?;",
      .line "GenericClient::execute(db, &stmt.sql, &stmt.params()).await" ]

/-- The function that deletes the row with an identity. -/
def deleteByIdFunction (t : Table) (o : Options) : Function where
  isPublic := true
  isAsync := true
  name := "delete_by_id"
  params := [connectionParam o, ("id", identityType t)]
  result := some "CrudResult<()>"
  body :=
    .line s!"let n = delete({(connectionParam o).1}, {identityFields t}).await?;" ::
    refuseNoRow "DeleteById"

/-- The function that tells whether a name is a column. -/
def containsFunction : Function where
  name := "model_contains_field"
  params := [("field", "&str")]
  result := some "bool"
  body := [.line "COLUMNS.contains(&field)"]

/-- The function that reads a row. -/
def rowFunction (t : Table) : Function where
  name := "from_row"
  params := [("row", "&Row")]
  result := some s!"CrudResult<{t.entity.name}>"
  body :=
    [ .block s!"Ok({t.entity.name} \x7b"
        ((initialisers t).map fun i => .line i.render)
        "\x7d)" ]

/-! ## The module -/

/-- Imports from the library that emitted code runs on. -/
def runtimeUses (o : Options) : List String :=
  [ "dbcrud::qb::\x7bself, Dialect\x7d",
    "dbcrud::tokio_postgres::Row",
    match o.connection with
    | .explicit => "dbcrud::\x7bCrudError, CrudResult, Fields, GenericClient, Operation\x7d"
    | .context =>
      "dbcrud::\x7bCrudError, CrudResult, DbContext, Fields, GenericClient, Operation\x7d" ]

/-- The functions of the module. -/
def accessorFunctions (t : Table) (o : Options) : List Function :=
  [ insertFunction t o, selectFunction t o, selectByIdFunction t o, updateFunction o,
    updateByIdFunction t o, deleteFunction o, deleteByIdFunction t o, containsFunction,
    rowFunction t ]

/-- The module of functions for a table. -/
def accessorFile (t : Table) (o : Options) : File where
  items := [.uses (runtimeUses o), .uses (modelUses t)] ++
    (constants t o).map .constant ++ (accessorFunctions t o).map .function

end Rowsmith.Code
