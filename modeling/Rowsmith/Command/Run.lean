/-
# Runs

A run of the command on a disk: reads the arguments and the settings, emits the files for the source
tree and brings the output directory in line with them.
-/

import Rowsmith.Command.Arguments
import Rowsmith.Command.Generation
import Rowsmith.Output.Apply
import Rowsmith.Settings.Project

namespace Rowsmith.Command

open Output

/-- Why a run fails. -/
inductive RunError where
  | arguments (e : ArgumentError)
  | settings (e : SettingsError)
  | generation (e : GenerationError)
  | output (e : ApplyError)
  deriving DecidableEq, Repr

/-- The wording of an error. -/
def RunError.message : RunError → String
  | arguments e => e.message
  | settings e => e.message
  | generation e => e.message?.getD "failed to parse a source file"
  | output e => e.message

/-- What a run works on. -/
structure Job where
  source : String
  output : String
  entities : List String
  options : Code.Options
  mode : Mode
  deriving DecidableEq, Repr

/-- Settings with what arguments set instead. A dialect that only has schemas turns off the rest. -/
def override (a : Arguments) (s : Settings) : Settings :=
  let s := if a.context then { s with access := { s.access with connection := .context } } else s
  match a.dialect with
  | none => s
  | some d =>
    let output := { s.output with dialect := d.name }
    if d = .mySql then { s with output := { output with crud := false, tests := false } }
    else { s with output := output }

/-- The job that arguments ask for. -/
def job (d : Disk) (env : Settings.Environment) (a : Arguments) : Except SettingsError Job := do
  let project ← Project.discover d env a.config
  let settings := override a project.settings
  settings.validate
  let options ← settings.options
  return {
    source := a.source.getD project.sourceDirectory
    output := a.output.getD project.outputDirectory
    entities := settings.input.entities
    options := options
    mode := ⟨a.dryRun, a.check⟩ }

/-- An action of a run on a disk. -/
abbrev RunAction := ExceptT RunError (StateM Disk)

/-- Goes on with a result, or fails with the error in its place. -/
def RunAction.lift {ε α : Type} (wrap : ε → RunError) : Except ε α → RunAction α
  | .ok a => pure a
  | .error e => throw (wrap e)

/-- Does a job, and gives what is printed. -/
def perform (j : Job) : RunAction String := do
  let d ← get
  let files ← RunAction.lift .generation (generate d j.source j.output j.entities j.options)
  let summary ← (Output.apply files j.output j.mode).adapt RunError.output
  return summary.report

/-- Runs the command with the given arguments, and gives what is printed. -/
def run (env : Settings.Environment) (arguments : List String) : RunAction String := do
  match ← RunAction.lift .arguments (Arguments.parse arguments) with
  | .help => return helpText
  | .generate a =>
    let d ← get
    perform (← RunAction.lift .settings (job d env a))

end Rowsmith.Command
