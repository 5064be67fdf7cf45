/-
# The layout of settings documents

Which keys a document has and which setting each stands for. A key that is missing leaves the setting
at its default, and any other key is refused. A section is a table, or the list of its settings in
order, of which the last may be missing.
-/

import Rowsmith.Settings.Basic
import Rowsmith.Settings.Document.Basic

namespace Rowsmith.Settings

/-- The values of a section for its keys, in their order. -/
def section? (keys : List String) : Option Node → Option (List (Option Node))
  | none => some (keys.map fun _ => none)
  | some (.table _ members) =>
    if members.all fun e => keys.contains e.1 then some (keys.map fun k => members.lookup k) else none
  | some (.list _ items) => some (keys.zipIdx.map fun k => items[k.2]?)
  | some _ => none

/-- The text at a key. -/
def textOf? (default : String) : Option Node → Option String
  | none => some default
  | some (.text s) => some s
  | some _ => none

/-- The truth value at a key. -/
def truthOf? (default : Bool) : Option Node → Option Bool
  | none => some default
  | some (.truth b) => some b
  | some _ => none

/-- The number of 64 bits at a key. -/
def countOf? (default : Nat) : Option Node → Option Nat
  | none => some default
  | some (.integer n) => if 0 ≤ n && n < 0x10000000000000000 then some n.toNat else none
  | some _ => none

/-- The texts at a key. -/
def textsOf? (default : List String) : Option Node → Option (List String)
  | none => some default
  | some (.list _ items) => items.mapM fun i => textOf? "" (some i)
  | some _ => none

/-- The connection mode with the given name. -/
def connectionNamed? : String → Option Code.ConnectionMode
  | "explicit" => some .explicit
  | "context" => some .context
  | _ => none

/-- The connection mode at a key: its name, or its name as the only key of a table, with nothing in
it. -/
def connectionOf? (default : Code.ConnectionMode) : Option Node → Option Code.ConnectionMode
  | none => some default
  | some (.text name) | some (.table _ [(name, .table _ [])]) | some (.table _ [(name, .list _ [])]) =>
    connectionNamed? name
  | some _ => none

/-- The settings for the input. -/
def inputOf? (n : Option Node) : Option InputSettings := do
  let base : InputSettings := {}
  match ← section? ["src", "entities"] n with
  | [source, entities] =>
    return ⟨← textOf? base.source source, ← textsOf? base.entities entities⟩
  | _ => none

/-- The settings for the output. -/
def outputOf? (n : Option Node) : Option OutputSettings := do
  let base : OutputSettings := {}
  match ← section? ["out", "dialect", "schema", "crud", "tests"] n with
  | [directory, dialect, schema, crud, tests] =>
    return ⟨← textOf? base.directory directory, ← textOf? base.dialect dialect,
      ← truthOf? base.schema schema, ← truthOf? base.crud crud, ← truthOf? base.tests tests⟩
  | _ => none

/-- The settings for emitted functions. -/
def accessOf? (n : Option Node) : Option AccessSettings := do
  let base : AccessSettings := {}
  match ← section? ["connection", "context_client", "max_select_rows"] n with
  | [connection, client, rows] =>
    return ⟨← connectionOf? base.connection connection, ← textOf? base.contextClient client,
      ← countOf? base.maxRows rows⟩
  | _ => none

/-- The settings for times of changes. -/
def timestampsOf? (n : Option Node) : Option TimestampSettings := do
  let base : TimestampSettings := {}
  match ← section? ["inserted", "updated"] n with
  | [inserted, updated] =>
    return ⟨← textOf? base.inserted inserted, ← textOf? base.updated updated⟩
  | _ => none

/-- The settings that a document holds. -/
def ofDocument? (d : Document) : Option Settings := do
  let base : Settings := {}
  match ← section? ["version", "input", "output", "crud", "timestamps"] (some (.table .header d)) with
  | [version, input, output, access, timestamps] =>
    return ⟨← textOf? base.version version, ← inputOf? input, ← outputOf? output,
      ← accessOf? access, ← timestampsOf? timestamps⟩
  | _ => none

end Rowsmith.Settings
