/-
# Applying plans

Brings a disk in line with the files of a run, or only reports or checks what that would change.
Changes are made one after the other, and those before a failure stay.
-/

import Rowsmith.Output.Plan

namespace Rowsmith.Output

open Disk Code

/-- What a run does with its plan. -/
structure Mode where
  /-- Report the plan and change nothing. -/
  dryRun : Bool := false
  /-- Fail unless there is nothing to change. -/
  check : Bool := false
  deriving DecidableEq, Repr

/-- Why the files of a run are not in place. -/
inductive ApplyError where
  /-- The output directory does not make a pattern. -/
  | pattern (text : String) (e : PatternError)
  /-- A check found changes. -/
  | outOfDate (created updated removed : Nat)
  /-- No file of the run has the path. -/
  | noContent (path : String)
  /-- The path ends in no file name. -/
  | noParent (path : String)
  | makeDirectory (path : String) (e : Failure)
  | replace (path : String) (e : Failure)
  | remove (path : String) (e : Failure)
  deriving DecidableEq, Repr

/-- The wording of an error, with its cause. -/
def ApplyError.message : ApplyError → String
  | pattern text e => s!"invalid glob {text}: {e.message}"
  | outOfDate created updated removed =>
    "generated files are out of date: " ++
      s!"{created} to create, {updated} to update, {removed} to remove"
  | noContent path => s!"no content planned for {path}"
  | noParent path => s!"{path} has no parent directory"
  | makeDirectory path e => s!"failed to create directory {path}: {e.message}"
  | replace path e =>
    s!"failed to replace {path}: failed to persist temporary file: {e.message}: {e.message}"
  | remove path e => s!"failed to remove {path}: {e.message}"

/-- What a run did. -/
structure Summary where
  plan : Plan
  /-- Whether the changes were made. -/
  applied : Bool
  /-- What is printed. -/
  report : String := ""
  deriving DecidableEq, Repr

/-- An action on a disk that may fail. What it has done before it fails stays done. -/
abbrev Action := ExceptT ApplyError (StateM Disk)

/-- Puts a disk in the place of the present one, unless there is none. -/
def Action.change (e : Failure → ApplyError) (next : Disk → Except Failure Disk) : Action Unit := do
  match next (← get) with
  | .ok d => set d
  | .error failure => throw (e failure)

/-- Puts a file at the end of a path, in a directory that is made if need be. -/
def writeFile (path content : String) : Action Unit := do
  let some directory := Path.parent? path | throw (.noParent path)
  Action.change (.makeDirectory directory) fun d => d.makeDirectories directory
  Action.change (.replace path) fun d => d.replaceFile path (.text content)

/-- Removes a file, and then its directory if nothing is left there. -/
def removeFile (path : String) : Action Unit := do
  Action.change (.remove path) fun d => d.removeFile path
  if let some directory := Path.parent? path then
    modify fun d => d.removeBareDirectory directory

/-- Makes a change. Of two files of the run with the same path the first is written. -/
def applyChange (files : List OutputFile) (c : PlannedChange) : Action Unit :=
  match c.change with
  | .remove => removeFile c.path
  | .create | .update =>
    match files.find? fun f => Path.same f.path c.path with
    | some f => writeFile f.path f.content
    | none => throw (.noContent c.path)

/-- Makes changes in order. -/
def applyChanges (files : List OutputFile) : List PlannedChange → Action Unit
  | [] => pure ()
  | c :: cs => do
    applyChange files c
    applyChanges files cs

/-- Plans the changes for the files of a run, and reports, checks or makes them. -/
def apply (files : List OutputFile) (out : String) (mode : Mode) : Action Summary := do
  match plan (← get) files out with
  | .error e => throw (.pattern (patternBelow out) e)
  | .ok p =>
    if mode.dryRun then
      return ⟨p, false, p.report out⟩
    else if mode.check then
      if p.isClean then
        return ⟨p, false, ""⟩
      else
        throw (.outOfDate (p.count .create) (p.count .update) (p.count .remove))
    else
      applyChanges files p.changes
      return ⟨p, true, ""⟩

end Rowsmith.Output
