/-
# The command

Runs the command on the machine. The settings file and the directories that the run works on are read
into a disk, the run is done on that disk, and what it changed there is then changed on the machine.
-/

import Rowsmith.Command.Run

namespace Rowsmith.Main

open Disk

/-- Levels of directories that are read. -/
def depth : Nat :=
  256

/-- The disk with the directories above the working directory to which a path steps, and with the
root. -/
def withOutside (d : Disk) (path : String) : Disk :=
  let ups := (Path.components path).countP (· == .parent)
  let d := (List.range ups).foldl (fun d n => d.put (List.replicate (n + 1) "..") .directory) d
  if Path.isAbsolute path then d.put ["/"] .directory else d

/-- Reads the entry at a path and what is below it, over at most `level` levels. A link to a directory
is not followed. -/
def read (level : Nat) (d : Disk) (path : String) : IO Disk := do
  let place := (← IO.currentDir) / path
  if ← place.isDir then
    let mut d := (d.makeDirectories path).toOption.getD d
    match level with
    | 0 => return d
    | level + 1 =>
      for e in ← place.readDir do
        let isLink := (← e.path.symlinkMetadata).type == .symlink
        if !(isLink && (← e.path.isDir)) then
          d ← read level d (continued path e.fileName)
      return d
  else if ← place.pathExists then
    let content := Content.ofBytes (← IO.FS.readBinFile place)
    return (d.placeFile path content).toOption.getD d
  else
    return d

/-- The directory that holds all paths that match a pattern: its names before the first one that
leaves characters open. -/
def base (pattern : String) : String :=
  let isPlain (part : String) : Bool := part.toList.all fun c => c ≠ '*' && c ≠ '?' && c ≠ '['
  let parts := Path.parts pattern
  let kept := "/".intercalate (parts.takeWhile isPlain)
  if parts.all isPlain then pattern
  else if kept.isEmpty then (if Path.isAbsolute pattern then "/" else ".")
  else kept

/-- The entries that the arguments of a run name, and the variables that its settings name. -/
def surroundings (a : Command.Arguments) : IO (Disk × Settings.Environment) := do
  let file := a.config.getD Project.defaultFile
  let config ← read 0 (withOutside {} file) file
  let names := match Project.readSettings config file with
    | .ok settings => settings.referenceNames
    | .error _ => []
  let mut env : Settings.Environment := []
  for name in names do
    if let some value ← IO.getEnv name then
      env := (name, value) :: env
  match Command.job config env a with
  | .error _ => return (config, env)
  | .ok job =>
    let mut d := config
    for path in [job.source, job.output] do
      d ← read depth (withOutside d path) (base path)
    return (d, env)

/-- The path of an entry on the machine. -/
def machinePath (l : Location) : String :=
  if l.isEmpty then "." else "/".intercalate l

/-- Makes the changes on the machine that turn one disk into another. -/
def write (before after : Disk) : IO Unit := do
  let gone := before.entries.filter fun e => (after.entry? e.1).isNone
  for e in gone.mergeSort fun a b => b.1.length ≤ a.1.length do
    match e.2 with
    | .directory => IO.FS.removeDir (machinePath e.1)
    | .file _ => IO.FS.removeFile (machinePath e.1)
  for (l, content) in after.changedSince before do
    IO.FS.createDirAll (machinePath (above l))
    let temporary := machinePath (above l ++ [".rowsmith-new"])
    match content with
    | .text s => IO.FS.writeFile temporary s
    | .binary bytes => IO.FS.writeBinFile temporary ⟨bytes.toArray⟩
    IO.FS.rename temporary (machinePath l)

end Rowsmith.Main

/-- Runs the command. The exit code says whether it failed. -/
def main (arguments : List String) : IO UInt32 := do
  let (disk, env) ← match Rowsmith.Command.Arguments.parse arguments with
    | .ok (.generate a) => Rowsmith.Main.surroundings a
    | _ => pure ({}, [])
  let (result, after) := (Rowsmith.Command.run env arguments).run disk
  Rowsmith.Main.write disk after
  match result with
  | .ok printed =>
    IO.print printed
    return 0
  | .error e =>
    IO.eprintln e.message
    return 1
