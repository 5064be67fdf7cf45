/-
# Source trees

The declarations of all source files below a directory, each file a module named by its place there.
Files below the output directory are left out.
-/

import Rowsmith.Declaration.Collect
import Rowsmith.Disk.Glob

namespace Rowsmith.Command

open Disk

/-- Why the sources have no declarations. -/
inductive SourceTreeError where
  /-- The source directory does not make a pattern. -/
  | pattern (text : String) (e : PatternError)
  | unreadable (path : String) (e : Failure)
  | unparsed (path : String) (e : SourceError)
  deriving DecidableEq, Repr

/-- The wording of an error, where it has one of its own. -/
def SourceTreeError.message? : SourceTreeError → Option String
  | pattern text e => some s!"invalid config: invalid glob {text}: {e.message}"
  | unreadable path e => some s!"failed to read {path}: {e.message}"
  | unparsed path e => e.message?.map fun m => s!"failed to parse {path}: {m}"

/-- The pattern of all source files below a directory. -/
def sourcePattern (root : String) : String :=
  Path.join (Path.join root "**") "*.rs"

/-- Puts a path into a list in the order of components, unless its like is there. -/
def insertPath (p : String) : List String → List String
  | [] => [p]
  | q :: qs =>
    if Path.same p q then q :: qs
    else if Path.notAfter p q then p :: q :: qs
    else q :: insertPath p qs

/-- The source files below a directory, in order. -/
def sourceFiles (d : Disk) (root : String) : Except SourceTreeError (List String) :=
  match d.glob (sourcePattern root) with
  | .ok paths => .ok ((paths.filter d.isFile).foldl (fun sorted p => insertPath p sorted) [])
  | .error e => .error (.pattern (sourcePattern root) e)

/-- The module of a source file: the directories and the name of the file from the root on. A file
`mod` stands for its directory, and a file `lib` or `main` at the root for the whole. -/
def moduleOf (root file : String) : String :=
  let cs := Path.components file
  let below := if Path.startsWith file root then cs.drop (Path.components root).length else cs
  let directories := if below = [.root] then [] else below.dropLast.map Component.text
  let stem := match below.getLast? with
    | some (.normal name) => Path.stemOfName name
    | _ => ""
  let isRoot := directories.isEmpty && (stem = "lib" || stem = "main")
  let names := if stem = "mod" || isRoot then directories else directories ++ [stem]
  Text.joinSegments ("crate" :: names)

/-- Adds the declarations of source files, in order. -/
def collectFiles (d : Disk) (root : String) (set : DeclSet) :
    List String → Except SourceTreeError DeclSet
  | [] => .ok set
  | file :: files =>
    match d.readText file with
    | .error e => .error (.unreadable file e)
    | .ok text =>
      match Collect.source (moduleOf root file) text set with
      | .error e => .error (.unparsed file e)
      | .ok set => collectFiles d root set files

/-- The declarations of the source files below `root` and not below `out`. -/
def collectTree (d : Disk) (root out : String) : Except SourceTreeError DeclSet := do
  let files ← sourceFiles d root
  collectFiles d root .empty (files.filter fun f => !Path.startsWith f out)

end Rowsmith.Command
