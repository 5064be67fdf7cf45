/-
# Settings

What a run reads, what it emits and where to. Every setting has a default; settings that contradict
each other are refused before anything is read or written.
-/

import Rowsmith.Code.Options
import Rowsmith.Disk.Basic
import Rowsmith.Settings.Expansion

namespace Rowsmith

/-- Which declarations a run turns into tables. -/
structure InputSettings where
  /-- The directory with the sources. -/
  source : String := "src"
  /-- Names of entities that are not marked as such. -/
  entities : List String := []
  deriving DecidableEq, Repr

/-- What a run emits. -/
structure OutputSettings where
  directory : String := "src/db"
  /-- The dialect of statements, as written. -/
  dialect : String := "postgres"
  schema : Bool := true
  crud : Bool := true
  tests : Bool := true
  deriving DecidableEq, Repr

/-- How emitted functions get at rows. -/
structure AccessSettings where
  connection : Code.ConnectionMode := .explicit
  contextClient : String := "dbcrud::tokio_postgres::Client"
  maxRows : Nat := 1000
  deriving DecidableEq, Repr

/-- The columns that hold times of changes. A blank name stands for none. -/
structure TimestampSettings where
  inserted : String := "inserted_at"
  updated : String := "updated_at"
  deriving DecidableEq, Repr

/-- The settings of a run. -/
structure Settings where
  version : String := "1"
  input : InputSettings := {}
  output : OutputSettings := {}
  access : AccessSettings := {}
  timestamps : TimestampSettings := {}
  deriving DecidableEq, Repr

/-- Why a run has no settings to go by. -/
inductive SettingsError where
  | unreadable (path : String) (e : Disk.Failure)
  /-- The file is no document, or has other keys or values than settings have. -/
  | malformed (path : String)
  | expansion (e : Settings.ExpansionError)
  | version (text : String)
  | emptySource
  | emptyEntity
  | emptyOutput
  | noRows
  | dialect (e : UnknownDialect)
  /-- Functions or tests are asked for in a dialect that has none. -/
  | schemaOnly
  /-- Tests are asked for without what they test. -/
  | testsAlone
  | emptyClient
  /-- Tests have no client of the type. -/
  | testClient (type : String)
  deriving DecidableEq, Repr

/-- The wording of an error. -/
def SettingsError.message : SettingsError → String
  | unreadable path e => s!"failed to read config file {path}: {e.message}"
  | malformed path => s!"failed to parse config file {path}"
  | expansion e => e.message
  | version text => s!"unsupported config version: {text}"
  | emptySource => "input.src must not be empty"
  | emptyEntity => "input.entities must not contain empty names"
  | emptyOutput => "output.out must not be empty"
  | noRows => "crud.max_select_rows must be greater than zero"
  | dialect e => s!"output.dialect: {e.message}"
  | schemaOnly =>
    "output.dialect = \"mysql\" only supports schema output; " ++
      "set output.crud and output.tests to false"
  | testsAlone => "output.tests requires output.crud and output.schema"
  | emptyClient => "crud.context_client must not be empty"
  | testClient type =>
    "generated tests run against a tokio-postgres client, " ++
      s!"but crud.context_client is {type}"

namespace Settings

/-- Types of connections that the context of an emitted test can carry. -/
def testClients : List String :=
  ["dbcrud::tokio_postgres::Client", "tokio_postgres::Client", "tokio_postgres::client::Client"]

/-- The names in all references of the settings. -/
def referenceNames (s : Settings) : List String :=
  (s.input.entities ++ [s.input.source, s.output.directory, s.output.dialect,
    s.access.contextClient, s.timestamps.inserted, s.timestamps.updated]).flatMap references

/-- Replaces the references in the settings that may have some. -/
def expandAll (env : Environment) (s : Settings) : Except ExpansionError Settings := do
  let source ← expand env s.input.source
  let entities ← s.input.entities.mapM (expand env)
  let directory ← expand env s.output.directory
  let dialect ← expand env s.output.dialect
  let contextClient ← expand env s.access.contextClient
  let inserted ← expand env s.timestamps.inserted
  let updated ← expand env s.timestamps.updated
  return { s with
    input := ⟨source, entities⟩
    output := { s.output with directory, dialect }
    access := { s.access with contextClient }
    timestamps := ⟨inserted, updated⟩ }

/-- The dialect of statements. -/
def dialect (s : Settings) : Except SettingsError Dialect :=
  (Dialect.ofText s.output.dialect).mapError .dialect

/-- Refuses settings that contradict each other. -/
def validate (s : Settings) : Except SettingsError Unit := do
  if Text.trimmed s.version ≠ "1" then throw (.version s.version)
  if Text.isBlankText s.input.source then throw .emptySource
  if s.input.entities.any Text.isBlankText then throw .emptyEntity
  if Text.isBlankText s.output.directory then throw .emptyOutput
  if s.access.maxRows = 0 then throw .noRows
  let dialect ← s.dialect
  if dialect = .mySql && (s.output.crud || s.output.tests) then throw .schemaOnly
  if s.output.tests && !(s.output.crud && s.output.schema) then throw .testsAlone
  if s.access.connection = .context then
    if Text.isBlankText s.access.contextClient then throw .emptyClient
    if s.output.tests && !testClients.contains s.access.contextClient then
      throw (.testClient s.access.contextClient)

/-- What is emitted for each table. -/
def options (s : Settings) : Except SettingsError Code.Options := do
  return {
    dialect := ← s.dialect
    connection := s.access.connection
    contextClient := s.access.contextClient
    maxRows := s.access.maxRows
    autoTimestamps :=
      [s.timestamps.inserted, s.timestamps.updated].filter fun t => !Text.isBlankText t
    schema := s.output.schema
    crud := s.output.crud
    tests := s.output.tests }

end Settings

end Rowsmith
