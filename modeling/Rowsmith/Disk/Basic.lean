/-
# Disks

The files and directories that a run sees, as a value. A location is the row of names that leads to
an entry from the working directory; paths are followed to locations step by step, so a path through
a file or through a missing directory leads nowhere.
-/

import Rowsmith.Disk.Path
import Rowsmith.Text.Ordered

namespace Rowsmith.Disk

/-- The names that lead to an entry from the working directory. A location outside of it starts with
steps upwards, or with the root. -/
abbrev Location := List String

/-- What a file holds. -/
inductive Content where
  | text (s : String)
  /-- Bytes that are the encoding of no text. -/
  | binary (bytes : List UInt8)
  deriving DecidableEq, Repr

/-- What a file with the given bytes holds. -/
def Content.ofBytes (bytes : ByteArray) : Content :=
  match String.fromUTF8? bytes with
  | some s => text s
  | none => binary bytes.toList

/-- What stands at a location. -/
inductive Entry where
  | directory
  | file (content : Content)
  deriving DecidableEq, Repr

/-- Why an operation on a disk fails. -/
inductive Failure where
  | notFound
  | busy
  | occupied
  | notDirectory
  | isDirectory
  /-- The file holds no text. -/
  | notText
  deriving DecidableEq, Repr

/-- The wording of a failure. -/
def Failure.message : Failure → String
  | notFound => "No such file or directory (os error 2)"
  | busy => "Device or resource busy (os error 16)"
  | occupied => "File exists (os error 17)"
  | notDirectory => "Not a directory (os error 20)"
  | isDirectory => "Is a directory (os error 21)"
  | notText => "stream did not contain valid UTF-8"

/-- The location of the directory that holds `l`. -/
def above (l : Location) : Location :=
  match l.getLast? with
  | none | some ".." => l ++ [".."]
  | some "/" => l
  | some _ => l.dropLast

/-- The names that lead from the location `l` down to the location `k`, if `k` lies below. Nothing lies
below another location by steps upwards or by the root. -/
def namesBelow? (l k : Location) : Option (List String) :=
  if l.isPrefixOf k then
    match k.drop l.length with
    | [] | ".." :: _ | "/" :: _ => none
    | names => some names
  else none

end Disk

/-- The entries of a disk with their locations. The working directory itself is not listed. -/
structure Disk where
  entries : List (Disk.Location × Disk.Entry) := []
  deriving DecidableEq, Repr

namespace Disk

/-- What stands at a location. -/
def entry? (d : Disk) (l : Location) : Option Entry :=
  if l.isEmpty then some .directory else d.entries.lookup l

/-- The disk with `e` at the location `l`. -/
def put (d : Disk) (l : Location) (e : Entry) : Disk :=
  ⟨(l, e) :: d.entries.filter fun x => x.1 ≠ l⟩

/-- The disk with nothing at the location `l`. -/
def erase (d : Disk) (l : Location) : Disk :=
  ⟨d.entries.filter fun x => x.1 ≠ l⟩

/-- Whether nothing stands below the location `l`. -/
def isBare (d : Disk) (l : Location) : Bool :=
  d.entries.all fun x => !l.isPrefixOf x.1 || x.1 = l

/-! ## Following paths -/

/-- The location to which `parts` lead from the location `l`. Each step is taken in a directory. -/
def follow (d : Disk) : Location → List String → Except Failure Location
  | l, [] => .ok l
  | l, part :: parts =>
    match d.entry? l with
    | none => .error .notFound
    | some (.file _) => .error .notDirectory
    | some .directory =>
      match part with
      | "" | "." => d.follow l parts
      | ".." => d.follow (above l) parts
      | name => d.follow (l ++ [name]) parts

/-- The location at which a path starts. -/
def start (p : String) : Location :=
  if Path.isAbsolute p then ["/"] else []

/-- The location to which a path leads. -/
def locate (d : Disk) (p : String) : Except Failure Location :=
  if p.isEmpty then .error .notFound else d.follow (start p) (Path.parts p)

/-- What stands at the end of a path. -/
def find (d : Disk) (p : String) : Except Failure Entry := do
  match d.entry? (← d.locate p) with
  | some e => return e
  | none => throw .notFound

/-- Whether a path leads to something. -/
def isThere (d : Disk) (p : String) : Bool :=
  (d.find p).toOption.isSome

/-- Whether a path leads to a directory. -/
def isDirectory (d : Disk) (p : String) : Bool :=
  (d.find p).toOption == some .directory

/-- Whether a path leads to a file. -/
def isFile (d : Disk) (p : String) : Bool :=
  (d.find p).toOption.any (· != .directory)

/-- The text of the file to which a path leads. -/
def readText (d : Disk) (p : String) : Except Failure String := do
  match ← d.find p with
  | .directory => throw .isDirectory
  | .file (.text s) => return s
  | .file (.binary _) => throw .notText

/-! ## Looking into directories -/

/-- The entries below the location to which a path leads, by the names that lead to them from there. -/
def below (d : Disk) (p : String) : List (List String × Entry) :=
  match d.locate p with
  | .error _ => []
  | .ok l => d.entries.filterMap fun x => (namesBelow? l x.1).map fun names => (names, x.2)

/-- The names of the entries of the directory to which a path leads. -/
def children (d : Disk) (p : String) : List String :=
  (d.below p).filterMap fun e =>
    match e.1 with
    | [name] => some name
    | _ => none

/-! ## Changing entries -/

/-- The last step of a path, before it is taken. -/
structure Target where
  /-- The directory in which the step is taken. -/
  directory : Location
  name : String
  /-- Whether a slash follows. -/
  slashed : Bool
  deriving DecidableEq, Repr

/-- The location to which the step leads. -/
def Target.location (t : Target) : Location :=
  t.directory ++ [t.name]

/-- Whether the step goes to an entry of the directory. -/
def Target.isProper (t : Target) : Bool :=
  t.name != "" && t.name != "." && t.name != ".."

/-- The last step of a path. The steps before it have to lead to a directory. -/
def target (d : Disk) (p : String) : Except Failure Target := do
  let back := (Path.parts p).reverse
  match back.dropWhile String.isEmpty with
  | [] => if Path.isAbsolute p then return ⟨start p, "", true⟩ else throw .notFound
  | name :: before =>
    let l ← d.follow (start p) before.reverse
    match d.entry? l with
    | none => throw .notFound
    | some (.file _) => throw .notDirectory
    | some .directory => return ⟨l, name, back.head? == some ""⟩

/-- Makes the directory at the end of a path. -/
def makeDirectory (d : Disk) (p : String) : Except Failure Disk := do
  let t ← d.target p
  if !t.isProper || (d.entry? t.location).isSome then throw .occupied
  return d.put t.location .directory

/-- Makes the directory at the end of the first path, after those at the end of the others where it
is missing a directory to stand in. A directory that is there already counts as made. -/
def makeAll (d : Disk) : List String → Except Failure Disk
  | [] => .ok d
  | p :: above =>
    if p.isEmpty then .ok d else
      let make (d : Disk) : Except Failure Disk :=
        match d.makeDirectory p with
        | .ok made => .ok made
        | .error e => if d.isDirectory p then .ok d else .error e
      match d.makeDirectory p with
      | .error .notFound => (makeAll d above).bind make
      | _ => make d

/-- Makes the directory at the end of a path, and those above it that are missing. -/
def makeDirectories (d : Disk) (p : String) : Except Failure Disk :=
  d.makeAll (Path.ancestors p)

/-- Puts a file at the end of a path, in the place of the file there. -/
def replaceFile (d : Disk) (p : String) (content : Content) : Except Failure Disk := do
  let t ← d.target p
  if !t.isProper then throw .busy
  if t.slashed then throw .notDirectory
  if d.entry? t.location = some .directory then throw .isDirectory
  return d.put t.location (.file content)

/-- Puts a file at the end of a path, in a directory that is made if need be. -/
def placeFile (d : Disk) (p : String) (content : Content) : Except Failure Disk := do
  (← d.makeDirectories ((Path.parent? p).getD "")).replaceFile p content

/-- Removes the file at the end of a path. -/
def removeFile (d : Disk) (p : String) : Except Failure Disk := do
  let t ← d.target p
  if !t.isProper then throw .isDirectory
  match d.entry? t.location with
  | none => throw .notFound
  | some .directory => throw .isDirectory
  | some (.file _) =>
    if t.slashed then throw .notDirectory
    return d.erase t.location

/-- Removes the directory at the end of a path, if it is there and empty. -/
def removeBareDirectory (d : Disk) (p : String) : Disk :=
  match d.target p with
  | .error _ => d
  | .ok t =>
    if t.isProper && d.entry? t.location = some .directory && d.isBare t.location then
      d.erase t.location
    else d

/-- Removes what stands at the end of a path with all that is below it. -/
def removeAll (d : Disk) (p : String) : Except Failure Disk := do
  let l ← d.locate p
  if (d.entry? l).isNone then throw .notFound
  return ⟨d.entries.filter fun x => !l.isPrefixOf x.1⟩

/-! ## The whole disk -/

/-- The path of an entry, with a slash after that of a directory. -/
def entryPath (x : Location × Entry) : String :=
  "/".intercalate x.1 ++ if x.2 = .directory then "/" else ""

/-- The paths of all entries in order. -/
def listing (d : Disk) : List String :=
  Text.ordered (d.entries.map entryPath)

/-- The files that `before` does not have, or has with another content. -/
def changedSince (d before : Disk) : List (Location × Content) :=
  d.entries.filterMap fun x =>
    match x.2 with
    | .directory => none
    | .file content => if before.entry? x.1 = some x.2 then none else some (x.1, content)

end Disk

end Rowsmith
