/-
# Scenarios

The cases that the emitted tests of a table run through. Rows are made from numbers; a case inserts
rows, does one operation, and states which rows are left.
-/

namespace Rowsmith.Code

/-- A payload in a scenario. -/
inductive Payload where
  | empty
  /-- The columns of the row made from a number. -/
  | made (nonce : Int)
  /-- A name that is no column. -/
  | unknown
  deriving DecidableEq, Repr

/-- A case: what is inserted, what is asked, and what is expected. -/
structure Scenario where
  name : String
  /-- The numbers that the inserted rows are made from. -/
  insert : List Int := []
  id : Option Int := none
  updates : Payload := .empty
  query : Payload := .empty
  expectedCount : Option Nat := none
  /-- The numbers of the rows that are left, with their identities. -/
  expected : List (Int × Int) := []
  expectError : Bool := false
  deriving DecidableEq, Repr

/-- The operation that the cases of a suite do. -/
inductive Suite where
  | insertAndSelect
  | selectById
  | update
  | updateById
  | delete
  | deleteById
  deriving DecidableEq, Repr

namespace Suite

/-- All suites in order. -/
def all : List Suite :=
  [insertAndSelect, selectById, update, updateById, delete, deleteById]

/-- The name of a suite. -/
def name : Suite → String
  | insertAndSelect => "insert_and_select"
  | selectById => "select_by_id"
  | update => "update"
  | updateById => "update_by_id"
  | delete => "delete"
  | deleteById => "delete_by_id"

/-- Whether the operation changes rows. -/
def mutates (s : Suite) : Bool :=
  s != insertAndSelect && s != selectById

/-- The cases of a suite. -/
def scenarios : Suite → List Scenario
  | insertAndSelect =>
    [ { name := "selects nothing when nothing inserted" },
      { name := "insert one and select", insert := [11], expected := [(11, 1)] },
      { name := "insert many and select"
        insert := [11, 21, 31, 41]
        expected := [(11, 1), (21, 2), (31, 3), (41, 4)] },
      { name := "insert many and select with query"
        insert := [22, 45, 45, 1, 45]
        query := .made 45
        expected := [(45, 2), (45, 3), (45, 5)] },
      { name := "select query field which is not in data model returns error"
        insert := [1]
        query := .unknown
        expectError := true } ]
  | selectById =>
    [ { name := "when ID not found returns error"
        insert := [100, 200]
        id := some 12345
        expectError := true },
      { name := "when ID is found returns row"
        insert := [100, 200, 300]
        id := some 2
        expected := [(200, 2)] } ]
  | update =>
    [ { name := "empty params does nothing", expectedCount := some 0 },
      { name := "update unknown field throws error"
        insert := [1]
        updates := .unknown
        expected := [(1, 1)]
        expectError := true },
      { name := "query unknown field throws error"
        insert := [7, 8]
        updates := .made 1
        query := .unknown
        expected := [(7, 1), (8, 2)]
        expectError := true },
      { name := "update all records"
        insert := [123, 124, 125, 126]
        updates := .made 111
        expectedCount := some 4
        expected := [(111, 1), (111, 2), (111, 3), (111, 4)] },
      { name := "update records with query"
        insert := [123, 125, 124, 125, 126, 125]
        updates := .made 999
        query := .made 125
        expectedCount := some 3
        expected := [(123, 1), (999, 2), (124, 3), (999, 4), (126, 5), (999, 6)] } ]
  | updateById =>
    [ { name := "no updates does not error even if ID does not exist"
        insert := [5]
        id := some 1234
        expected := [(5, 1)] },
      { name := "when there are updates and ID not found throws error"
        insert := [1, 2]
        id := some 1234
        updates := .made 1
        expected := [(1, 1), (2, 2)]
        expectError := true },
      { name := "when update field not in schema throws error"
        insert := [1]
        id := some 1
        updates := .unknown
        expected := [(1, 1)]
        expectError := true },
      { name := "insert many and update one by id"
        insert := [101, 102, 103, 104]
        id := some 3
        updates := .made 555
        expected := [(101, 1), (102, 2), (555, 3), (104, 4)] } ]
  | delete =>
    [ { name := "empty query deletes all records"
        insert := [1000, 1001, 1002, 1003, 1004]
        expectedCount := some 5 },
      { name := "delete records using query"
        insert := [1000, 1001, 1002, 1002, 1003, 1004, 1002]
        query := .made 1002
        expectedCount := some 3
        expected := [(1000, 1), (1001, 2), (1003, 5), (1004, 6)] },
      { name := "when query contains field not in data model returns error"
        insert := [1000]
        query := .unknown
        expected := [(1000, 1)]
        expectError := true } ]
  | deleteById =>
    [ { name := "when ID not found returns error"
        insert := [101, 102]
        id := some 0
        expected := [(101, 1), (102, 2)]
        expectError := true },
      { name := "insert many and delete by ID"
        insert := [101, 102, 103, 104]
        id := some 3
        expected := [(101, 1), (102, 2), (104, 4)] } ]

end Suite

end Rowsmith.Code
