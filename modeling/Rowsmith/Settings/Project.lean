/-
# Projects

The settings of a run together with the file that holds them. Paths in the file are taken from the
directory of the file.
-/

import Rowsmith.Settings.Document.Reader
import Rowsmith.Settings.Layout

namespace Rowsmith

/-- Settings and where they are from. -/
structure Project where
  /-- The file that holds the settings, if there is one. -/
  configPath : Option String := none
  /-- The directory from which paths in the settings are taken. -/
  directory : String := ""
  settings : Settings := {}
  deriving DecidableEq, Repr

namespace Project

open Disk

/-- The file that holds the settings where none is named. -/
def defaultFile : String :=
  "dbcrud.toml"

/-- The settings in the file at a path, as written. -/
def readSettings (d : Disk) (path : String) : Except SettingsError Settings := do
  let text ← (d.readText path).mapError (.unreadable path)
  match (Settings.Document.parse? text).bind Settings.ofDocument? with
  | some settings => return settings
  | none => throw (.malformed path)

/-- The project of the file at a path. -/
def load (d : Disk) (env : Settings.Environment) (path : String) : Except SettingsError Project := do
  let settings ← ((← readSettings d path).expandAll env).mapError .expansion
  settings.validate
  return ⟨some path, (Path.parent? path).getD ".", settings⟩

/-- The project of the named file, or else of the default one if it is there. -/
def discover (d : Disk) (env : Settings.Environment) (path : Option String) :
    Except SettingsError Project :=
  match path with
  | some path => load d env path
  | none => if d.isFile defaultFile then load d env defaultFile else .ok {}

/-- A path of the settings as one from the working directory. -/
def resolve (p : Project) (path : String) : String :=
  Path.join p.directory path

/-- The directory with the sources. -/
def sourceDirectory (p : Project) : String :=
  p.resolve p.settings.input.source

/-- The directory that emitted files go to. -/
def outputDirectory (p : Project) : String :=
  p.resolve p.settings.output.directory

end Project

end Rowsmith
