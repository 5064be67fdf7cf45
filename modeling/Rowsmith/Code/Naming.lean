/-
# Names in emitted code

How the names of a model are spelled where emitted code mentions them.
-/

import Rowsmith.Table.Basic
import Rowsmith.Text.Ordered

namespace Rowsmith.Code

/-- Words that are marked as raw where they name a field. -/
def markedWords : List String :=
  ["as", "async", "await", "break", "const", "continue", "dyn", "else", "enum", "extern", "false",
    "fn", "for", "gen", "if", "impl", "in", "let", "loop", "match", "mod", "move", "mut", "pub",
    "ref", "return", "static", "struct", "trait", "true", "type", "unsafe", "use", "where", "while",
    "yield"]

/-- The name of a field as it is written. -/
def identifier (name : String) : String :=
  if markedWords.contains name then "r#" ++ name else name

/-- The declarations that code for a table mentions: the entity and the wrappers of its columns. -/
def modelPaths (t : Table) : List TypePath :=
  t.entity :: t.columns.filterMap fun c =>
    match c.via with
    | .newtype path => some path
    | _ => none

/-- The imports of the declarations that code for a table mentions, in order. -/
def modelUses (t : Table) : List String :=
  Text.ordered ((modelPaths t).map TypePath.display)

/-- `expression` in the wrapper of the column, if it has one. -/
def wrapped (c : Column) (expression : String) : String :=
  match c.via with
  | .newtype path => s!"{path.name}({expression})"
  | _ => expression

end Rowsmith.Code
