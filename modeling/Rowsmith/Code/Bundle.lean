/-
# Bundles of emitted files

The files that are emitted for tables: a directory for each table, and a module that names them all.
-/

import Rowsmith.Code.Printer
import Rowsmith.Code.RoundTrip
import Rowsmith.Disk.Path

namespace Rowsmith.Code

open Disk

/-- A file that is to be written. -/
structure OutputFile where
  path : String
  content : String
  deriving DecidableEq, Repr

/-- The mark in the first line of every emitted file. -/
def generatedMark : String :=
  "@generated by dbcrud-gen. Do not edit by hand."

/-- The first line of an emitted file of code. -/
def header : String :=
  "// " ++ generatedMark

/-- The module of functions. -/
def accessorModule : String :=
  "db_crud"

/-- The module of tests. -/
def testModule : String :=
  "db_crud_test"

/-- Whether tests are emitted along with what they need. -/
def Options.emitsTests (o : Options) : Bool :=
  o.tests && o.schema

/-- The module of a table. -/
def tableModule (o : Options) : File where
  items := [.submodule [] false accessorModule] ++
    (if o.emitsTests then [.submodule ["cfg(test)"] false testModule] else []) ++
    [.reexport (accessorModule ++ "::*")]

/-- The files of a table below the directory `out`. -/
def tableFiles (t : Table) (o : Options) (out : String) : List OutputFile :=
  let path := Path.join (Path.join out t.name)
  (if o.schema then
    [⟨path "schema.sql", s!"-- {generatedMark}\n\n" ++ t.createSql o.dialect⟩] else []) ++
  (if o.crud then
    [⟨path (accessorModule ++ ".rs"), printFile header (accessorFile t o)⟩,
      ⟨path "mod.rs", printFile header (tableModule o)⟩] else []) ++
  (if o.crud && o.emitsTests then
    [⟨path (testModule ++ ".rs"), printFile header (testFile t o)⟩] else [])

/-- The module that names the modules of all tables. -/
def rootModule (ts : List Table) : File where
  items := (Text.ordered (ts.map Table.name)).map (.submodule [] true)

/-- The file of the module that names the modules of all tables. -/
def rootFile (ts : List Table) (out : String) : OutputFile :=
  ⟨Path.join out "mod.rs", printFile header (rootModule ts)⟩

end Rowsmith.Code
