/-
# Round-trip tests of a table

The emitted module of tests that run the functions of a table against a database. Rows are made
from numbers, so that two rows made from one number are equal.
-/

import Rowsmith.Code.Accessors
import Rowsmith.Code.Scenario

namespace Rowsmith.Code

open Text

/-! ## Rows made from numbers -/

/-- The columns that are made from a number: all but the identity and those set to the time. -/
def plainColumns (t : Table) (o : Options) : List Column :=
  t.columns.filter fun c => !c.primaryKey && !o.isAutoTimestamp c

/-- The columns that an insertion sets to the time. -/
def autoColumns (t : Table) (o : Options) : List Column :=
  t.columns.filter o.isAutoTimestamp

/-- Whether a time is made from a number. -/
def makesTimestamps (t : Table) (o : Options) : Bool :=
  (plainColumns t o).any fun c => c.kind == .timestamp

/-- The expression of the value that is made from the number `nonce`. -/
def nonceExpression : Primitive → String
  | .bool => "nonce % 2 == 0"
  | .int32 => "nonce as i32"
  | .int64 => "nonce"
  | .float32 => "nonce as f32"
  | .float64 => "nonce as f64"
  | .text => "format!(\"some_str\x7bnonce\x7d\")"
  | .binary => "format!(\"some_bytes\x7bnonce\x7d\").into_bytes()"
  | .timestamp => "timestamp_from_nonce(nonce)"

/-- The expression that a column of a new row starts with. -/
def initialExpression (o : Options) (c : Column) : String :=
  wrapped c <|
    if c.primaryKey then "0"
    else if o.isAutoTimestamp c then "NaiveDateTime::default()"
    else nonceExpression c.kind

/-- The field of the identity, down to a value that can be compared. -/
def identityAccess (t : Table) : String :=
  match t.identity? with
  | none => ""
  | some c =>
    match c.via with
    | .newtype _ => identifier c.field ++ ".0"
    | _ => identifier c.field

/-- The function that makes a time from a number. -/
def timestampFunction : Function where
  name := "timestamp_from_nonce"
  params := [("nonce", "i64")]
  result := some "NaiveDateTime"
  body := [.line "DateTime::from_timestamp(nonce, 0)", .line "    .map(|t| t.naive_utc())",
    .line "    .unwrap_or_default()"]

/-- The function that makes a new row from a number. -/
def populateFunction (t : Table) (o : Options) : Function where
  name := "populate_from_nonce"
  params := [("nonce", "i64")]
  result := some t.entity.name
  body :=
    [ .block (t.entity.name ++ " \x7b")
        (t.columns.map fun c => .line s!"{identifier c.field}: {initialExpression o c},")
        "\x7d" ]

/-- The fields of a row that get a value when it is stored, with the expressions they get. -/
def storedAssignments (t : Table) (o : Options) : List (String × String) :=
  t.identity?.toList.map (fun c => (c.field, wrapped c "id")) ++
    (autoColumns t o).map fun c => (c.field, "t")

/-- The function that makes a stored row from a number. -/
def populateStoredFunction (t : Table) (o : Options) : Function where
  name := "populate_with_id_and_timestamp"
  params := [("nonce", "i64"), ("id", identityType t),
    (if (autoColumns t o).isEmpty then "_t" else "t", "NaiveDateTime")]
  result := some t.entity.name
  body := [.line "let mut d = populate_from_nonce(nonce);"] ++
    ((storedAssignments t o).map fun a => .line s!"d.{identifier a.1} = {a.2};") ++ [.line "d"]

/-- The columns of the payload made from a number, with the expressions of their values. -/
def noncePayload (t : Table) (o : Options) : List (String × String) :=
  (plainColumns t o).map fun c => (c.name, nonceExpression c.kind)

/-- The function that makes a payload from a number. -/
def payloadFunction (t : Table) (o : Options) : Function :=
  let calls := (noncePayload t o).map fun p => Stmt.line s!".with({quoted p.1}, {p.2})"
  { name := "fields_from_nonce"
    params := [("nonce", "i64")]
    result := some "Fields"
    body := if calls.isEmpty then [.line "Fields::new()"] else [.block "Fields::new()" calls ""] }

/-! ## Running a case -/

/-- The struct of a case. -/
def caseRecord (t : Table) : Record where
  derives := ["Default"]
  name := "Case"
  fields := [("name", "&'static str"), ("to_insert", s!"Vec<{t.entity.name}>"),
    ("id", identityType t), ("updates", "Fields"), ("query", "Fields"), ("expected_count", "u64"),
    ("expected", s!"Vec<{t.entity.name}>"), ("expect_err", "bool")]

/-- The type of the connection that a test passes on. -/
def connectionType (o : Options) : String :=
  (connectionParam o).2

/-- The function that opens the database of a test. -/
def openFunction : Function where
  isAsync := true
  name := "open"
  result := some "Option<TestDatabase>"
  body := [.line "TestDatabase::from_env(SCHEMA).await.expect(\"create test schema\")"]

/-- The function that inserts the rows of a case. -/
def insertAllFunction (o : Options) : Function where
  isAsync := true
  name := "insert_all"
  params := [("conn", connectionType o), ("case", "&Case")]
  body := [.braced "for d in &case.to_insert"
    [.line "crud::insert(conn, d).await.expect(case.name);"]]

/-- The line that compares with the rows that a case expects. -/
def compareLine (actual : String) : Stmt :=
  .line ("assert_eq!(case.expected, " ++ actual ++ ", \"\x7b\x7d\", case.name);")

/-- The function that compares the rows of the table with those that a case expects. -/
def assertRowsFunction (t : Table) (o : Options) : Function where
  isAsync := true
  name := "assert_rows"
  params := [("conn", connectionType o), ("case", "&Case")]
  body :=
    [ .line "let mut actual = crud::select(conn, &Fields::new()).await.expect(case.name);",
      .line s!"actual.sort_by_key(|d| d.{identityAccess t});",
      compareLine "actual" ]

/-- The call that a suite tests. -/
def Suite.call : Suite → String
  | insertAndSelect => "crud::select(conn, &case.query)"
  | selectById => "crud::select_by_id(conn, case.id)"
  | update => "crud::update(conn, &case.updates, &case.query)"
  | updateById => "crud::update_by_id(conn, case.id, &case.updates)"
  | delete => "crud::delete(conn, &case.query)"
  | deleteById => "crud::delete_by_id(conn, case.id)"

/-- The line that compares the rows of the table. -/
def assertRowsLine : Stmt :=
  .line "assert_rows(conn, &case).await;"

/-- The pattern of the answer of a call, and the statements that check it. -/
def Suite.success (identity : String) : Suite → String × List Stmt
  | insertAndSelect => ("Ok(mut actual)",
      [.line s!"actual.sort_by_key(|d| d.{identity});", compareLine "actual"])
  | selectById => ("Ok(actual)", [compareLine "vec![actual]"])
  | update | delete => ("Ok(n)",
      [.line "assert_eq!(case.expected_count, n, \"\x7b\x7d\", case.name);", assertRowsLine])
  | updateById | deleteById => ("Ok(())", [assertRowsLine])

/-- The statements that make the call of a suite and check its answer. A change that fails has to
leave the rows as they were. -/
def Suite.check (s : Suite) (identity : String) : List Stmt :=
  let (pattern, checks) := s.success identity
  let refusal := "assert!(case.expect_err, \"\x7b\x7d: \x7be\x7d\", case.name)"
  let failure := if s.mutates then
      Stmt.block "Err(e) => \x7b" [.line (refusal ++ ";"), assertRowsLine] "\x7d"
    else .line ("Err(e) => " ++ refusal ++ ",")
  [ .block ("match " ++ s.call ++ ".await \x7b")
      [ .block (pattern ++ " => \x7b")
          (.line "assert!(!case.expect_err, \"\x7b\x7d: expected an error\", case.name);" :: checks)
          "\x7d",
        failure ]
      "\x7d" ]

/-! ## Cases -/

/-- The expression of a payload, if it is not empty. -/
def Payload.render? (t : Table) : Payload → Option String
  | empty => none
  | made nonce => some s!"fields_from_nonce({nonce})"
  | unknown => some ("Fields::new().with(" ++ quoted ("field_not_in_" ++ t.name) ++ ", 1i64)")

/-- The field of a case that holds a list. One item stands on the line of the field. -/
def listField (name : String) : List String → List Stmt
  | [] => []
  | [item] => [.line s!"{name}: vec![{item}],"]
  | items => [.block (name ++ ": vec![") (items.map fun i => .line (i ++ ",")) "],"]

/-- The expression of a case. -/
def Scenario.render (t : Table) (s : Scenario) : Stmt :=
  let setting (name : String) (value : Option String) : List Stmt :=
    value.toList.map fun v => .line s!"{name}: {v},"
  let rows := s.insert.map fun n => s!"populate_from_nonce({n})"
  let expected := s.expected.map fun e => s!"populate_with_id_and_timestamp({e.1}, {e.2}, now)"
  .block "Case \x7b"
    (setting "name" (some (quoted s.name)) ++ listField "to_insert" rows ++
      setting "id" (s.id.map toString) ++ setting "updates" (s.updates.render? t) ++
      setting "query" (s.query.render? t) ++
      setting "expected_count" (s.expectedCount.map toString) ++ listField "expected" expected ++
      setting "expect_err" (if s.expectError then some "true" else none) ++
      [.line "..Default::default()"])
    "\x7d,"

/-- The function that runs the cases of a suite. -/
def suiteFunction (t : Table) (o : Options) (s : Suite) : Function :=
  let connect := match o.connection with
    | .explicit => [Stmt.line "let conn = db.client();"]
    | .context => [.line "let cx = db.context();", .line "let conn = &cx;"]
  let run := [Stmt.block "let Some(db) = open().await else \x7b" [.line "return;"] "\x7d;"] ++
    connect ++ [.line "insert_all(conn, &case).await;", .blank] ++ s.check (identityAccess t) ++
    [.blank, .line "db.close().await.expect(\"drop test schema\");"]
  { attributes := ["tokio::test"]
    isAsync := true
    name := s.name
    body :=
      [ .line "let clock = clock::freeze_now();",
        .line "let now = clock.time();",
        .block "let cases = vec![" (s.scenarios.map (Scenario.render t)) "];",
        .blank,
        .braced "for case in cases" run ] }

/-! ## The module -/

/-- Imports from the library that emitted tests run on. -/
def testUses (t : Table) (o : Options) : List String :=
  [ if makesTimestamps t o then "dbcrud::chrono::\x7bDateTime, NaiveDateTime\x7d"
    else "dbcrud::chrono::NaiveDateTime",
    "dbcrud::testing::TestDatabase",
    match o.connection with
    | .explicit => "dbcrud::\x7bFields, GenericClient, clock\x7d"
    | .context => "dbcrud::\x7bDbContext, Fields, clock\x7d" ]

/-- The functions of the module. -/
def testFunctions (t : Table) (o : Options) : List Function :=
  (if makesTimestamps t o then [timestampFunction] else []) ++
    [ populateFunction t o, populateStoredFunction t o, payloadFunction t o, openFunction,
      insertAllFunction o, assertRowsFunction t o ] ++
    Suite.all.map (suiteFunction t o)

/-- The module of tests for a table. -/
def testFile (t : Table) (o : Options) : File where
  items :=
    [ .uses (testUses t o),
      .uses ("super::db_crud as crud" :: modelUses t),
      .constant { name := "SCHEMA", type := "&str", value := "include_str!(\"schema.sql\")" },
      .record (caseRecord t) ] ++
    (testFunctions t o).map .function

end Rowsmith.Code
