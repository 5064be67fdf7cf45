/-
# Plans

What separates a disk from the files of a run. A file of the run is created, updated or left alone,
and a file below the output directory that carries the mark of emitted files in its first line is
removed, unless the run emits it again.
-/

import Rowsmith.Code.Bundle
import Rowsmith.Disk.Glob

namespace Rowsmith.Output

open Disk Code

/-- What happens to a file. -/
inductive Change where
  | create
  | update
  | remove
  deriving DecidableEq, Repr

/-- The name of a change. -/
def Change.display : Change → String
  | create => "create"
  | update => "update"
  | remove => "remove"

/-- A change of the file at a path. -/
structure PlannedChange where
  change : Change
  path : String
  deriving DecidableEq, Repr

/-- The changes that a run makes, and the number of files that it leaves alone. -/
structure Plan where
  changes : List PlannedChange
  unchanged : Nat
  deriving DecidableEq, Repr

/-- The change that a file of the run asks for, if it asks for one. What cannot be read as text is
created. -/
def changeFor? (d : Disk) (f : OutputFile) : Option PlannedChange :=
  match d.readText f.path with
  | .ok text => if text = f.content then none else some ⟨.update, f.path⟩
  | .error _ => some ⟨.create, f.path⟩

/-- Whether a text carries the mark of emitted files in its first line. -/
def isMarked (text : String) : Bool :=
  (Text.firstLine? text).any fun line => Text.occursIn generatedMark.toList line.toList

/-- Whether the file at a path carries the mark. -/
def isMarkedFile (d : Disk) (p : String) : Bool :=
  (d.readText p).toOption.any isMarked

/-- The pattern of all paths below a directory. -/
def patternBelow (out : String) : String :=
  Path.join (Path.join out "**") "*"

/-- The files below `out` that carry the mark. -/
def markedFiles (d : Disk) (out : String) : Except PatternError (List String) :=
  if d.isDirectory out then
    (d.glob (patternBelow out)).map fun paths =>
      paths.filter fun p => d.isFile p && isMarkedFile d p
  else .ok []

/-- The changes that bring the disk in line with the files of a run, in the order of their paths. -/
def plan (d : Disk) (files : List OutputFile) (out : String) : Except PatternError Plan := do
  let written := files.filterMap (changeFor? d)
  let stale := (← markedFiles d out).filter fun p => !files.any fun f => Path.same f.path p
  let changes := written ++ stale.map (PlannedChange.mk .remove)
  return ⟨changes.mergeSort fun a b => Path.notAfter a.path b.path, files.length - written.length⟩

namespace Plan

/-- Whether there is nothing to change. -/
def isClean (p : Plan) : Bool :=
  p.changes.isEmpty

/-- The number of changes of one sort. -/
def count (p : Plan) (change : Change) : Nat :=
  p.changes.countP fun c => c.change == change

/-- The path of a change as it is reported: from `out` on, if it lies there, with slashes only. -/
def displayPath (out path : String) : String :=
  ((Path.remainder? path out).getD path).map fun c => if c = '\\' then '/' else c

/-- The changes, a line for each. -/
def report (p : Plan) (out : String) : String :=
  String.join (p.changes.map fun c => c.change.display ++ " " ++ displayPath out c.path ++ "\n")

end Plan

end Rowsmith.Output
