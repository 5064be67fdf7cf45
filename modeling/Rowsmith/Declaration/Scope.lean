/-
# Scopes

What a name stands for in a module. A `use` item binds names to paths; a path that starts with a
bound name continues the path it is bound to, and any other path starts in the module itself. From
the path that results a written type is classified.
-/

import Rowsmith.Declaration.Basic
import Rowsmith.Source.Tree
import Rowsmith.Text.Segments

namespace Rowsmith

open Source Text

/-- The names that `use` items bind in a module. -/
structure Scope where
  module : String
  /-- Names with the paths they are bound to, the latest binding first. -/
  bindings : List (String × List String)
  deriving DecidableEq, Repr

namespace Scope

mutual

/-- The names that a `use` tree below the path `stem` binds, in order. -/
def bindingsOfTree (stem : List String) : UseTree → List (String × List String)
  | .step n tree => bindingsOfTree (stem ++ [n.text]) tree
  | .leaf n =>
    if n.text = "self" then
      match stem.getLast? with
      | some last => [(last, stem)]
      | none => []
    else [(n.text, stem ++ [n.text])]
  | .renamed n rename => [(rename.text, stem ++ [n.text])]
  | .glob => []
  | .group trees => bindingsOfTrees stem trees

/-- The names that `use` trees below the path `stem` bind, in order. -/
def bindingsOfTrees (stem : List String) : List UseTree → List (String × List String)
  | [] => []
  | tree :: trees => bindingsOfTree stem tree ++ bindingsOfTrees stem trees

end

/-- The names that the `use` items among `items` bind, in order. -/
def bindingsOfItems (items : List Item) : List (String × List String) :=
  items.flatMap fun
    | .imports tree => bindingsOfTree [] tree
    | _ => []

/-- The scope of a module with the given items. -/
def ofItems (module : String) (items : List Item) : Scope where
  module := module
  bindings := (bindingsOfItems items).reverse

/-- The path that `name` is bound to. -/
def get? (s : Scope) (name : String) : Option (List String) :=
  s.bindings.lookup name

/-- `path` with its first name replaced by the path it is bound to. -/
def expand (s : Scope) (path : List String) : List String :=
  match path with
  | [] => []
  | first :: rest =>
    match s.get? first with
    | some full => full ++ rest
    | none => path

/-- Follows the steps `super` at the start of `path` upwards from `module`, but never out of the
outermost module. -/
def ascend (module : List String) : List String → List String
  | [] => module
  | step :: rest =>
    if step = "super" then ascend (if module.length > 1 then module.dropLast else module) rest
    else module ++ step :: rest

/-- `path` as it reads from the outermost module. -/
def absolute (s : Scope) (path : List String) : List String :=
  match path with
  | "crate" :: _ => path
  | "self" :: rest => segments s.module ++ rest
  | path => ascend (segments s.module) path

/-- Names of built-in types that no column can have. -/
def unsupportedScalars : List String :=
  ["i8", "i16", "i128", "isize", "u8", "u16", "u32", "u64", "u128", "usize", "char", "str"]

/-- Whether the arguments of a path are the one type `u8`. -/
def isByte : List (List Token) → Bool
  | [[.name n]] => n.written == "u8"
  | _ => false

/-- What a path refers to; `text` is its text. -/
def classifyPath (s : Scope) (path : Path) (text : String) : TypeRef :=
  match path.segments.getLast? with
  | none => .unsupported text
  | some last =>
    match last.arguments with
    | some arguments =>
      if last.name.written = "Vec" ∧ isByte arguments then .primitive .binary
      else .unsupported text
    | none =>
      let names := path.segments.map fun segment => segment.name.text
      if names.length = 1 ∧ unsupportedScalars.contains last.name.text then .unsupported text
      else
        let expanded := s.expand names
        match (Primitive.ofTypeName? (joinSegments names)).or
            (Primitive.ofTypeName? (joinSegments expanded)) with
        | some kind => .primitive kind
        | none =>
          let full := s.absolute expanded
          match full.getLast?, full.dropLast with
          | some name, parent :: above => .named ⟨joinSegments (parent :: above), name⟩
          | _, _ => .unsupported text

/-- What a written type refers to. -/
def classify (s : Scope) : TypeExpr → TypeRef
  | .paren inner => s.classify inner
  | .path path tokens => s.classifyPath path (Token.compact tokens)
  | .other tokens => .unsupported (Token.compact tokens)

end Scope

end Rowsmith
