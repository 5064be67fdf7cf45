/-
# Generating files

The files that a run emits for a source tree. Every entity is compiled before anything is emitted, so
that one bad entity leaves no files.
-/

import Rowsmith.Code.Bundle
import Rowsmith.Command.Sources
import Rowsmith.Table.Compile

namespace Rowsmith.Command

open Code

/-- Why nothing is emitted. -/
inductive GenerationError where
  | sources (e : SourceTreeError)
  /-- A listed entity is declared nowhere. -/
  | undeclared (name : String)
  /-- Two entities have tables of one name. -/
  | sameTable (first second : TypePath) (table : String)
  | compile (e : CompileError)
  deriving DecidableEq, Repr

namespace GenerationError

/-- The wording of an error, where it has one of its own. -/
def message? : GenerationError → Option String
  | sources e => e.message?
  | undeclared name => some s!"invalid config: input.entities: no declaration named `{name}`"
  | sameTable first second table =>
    some (s!"invalid config: `{first.display}` and `{second.display}` " ++
      s!"both map to table `{table}`")
  | compile e => some e.message

/-- The entity that an error is about. -/
def entity? : GenerationError → Option String
  | compile e => some e.entity
  | _ => none

end GenerationError

/-- The entities among declarations: those that are marked, and those that are listed by name. -/
def selectEntities (listed : List String) : List Decl → Except CompileError (List Decl)
  | [] => .ok []
  | d :: ds =>
    if d.isMarked || listed.contains d.name then
      match d.kind with
      | .struct .. => (selectEntities listed ds).map (d :: ·)
      | _ => .error (.notAStruct d.name)
    else selectEntities listed ds

/-- The entities of a set of declarations. Every listed name has to be declared. -/
def entities (set : DeclSet) (listed : List String) : Except GenerationError (List Decl) :=
  match listed.find? fun name => (set.named name).isEmpty with
  | some name => .error (.undeclared name)
  | none => (selectEntities listed set.toList).mapError .compile

/-- Refuses tables of one name, where `seen` are the tables before. -/
def checkNames (seen : List Table) : List Table → Except GenerationError Unit
  | [] => .ok ()
  | t :: ts =>
    match seen.find? fun s => s.name == t.name with
    | some s => .error (.sameTable s.entity t.entity t.name)
    | none => checkNames (t :: seen) ts

/-- The tables of a source tree. -/
def tables (d : Disk) (root out : String) (listed : List String) :
    Except GenerationError (List Table) := do
  let set ← (collectTree d root out).mapError .sources
  let selected ← entities set listed
  let ts ← (selected.mapM (Table.compile set ColumnType.defaultTextBound)).mapError .compile
  checkNames [] ts
  return ts

/-- The files for tables: those of each table, and the module that names them all. -/
def filesFor (ts : List Table) (o : Options) (out : String) : List OutputFile :=
  ts.flatMap (fun t => tableFiles t o out) ++
    if o.crud && !ts.isEmpty then [rootFile ts out] else []

/-- The files that a run emits for the sources below `root`. -/
def generate (d : Disk) (root out : String) (listed : List String) (o : Options) :
    Except GenerationError (List OutputFile) := do
  return filesFor (← tables d root out listed) o out

end Rowsmith.Command
