/-
# Emitted code

A file of emitted code as its items. Signatures and nested blocks are explicit; expressions and
types are texts.
-/

namespace Rowsmith.Code

/-- A statement, or a line of one. -/
inductive Stmt where
  | line (text : String)
  | blank
  /-- A first line, indented statements, and a last line unless it is empty. -/
  | block (opening : String) (body : List Stmt) (closing : String)
  deriving Inhabited, Repr

/-- A block in braces after `head`. -/
def Stmt.braced (head : String) (body : List Stmt) : Stmt :=
  .block (head ++ " \x7b") body "\x7d"

/-- A constant. -/
structure Constant where
  doc : List String := []
  isPublic : Bool := false
  name : String
  type : String
  value : String
  deriving Repr

/-- A struct with its fields and their types. -/
structure Record where
  derives : List String := []
  isPublic : Bool := false
  name : String
  fields : List (String × String)
  deriving Repr

/-- A function. -/
structure Function where
  doc : List String := []
  attributes : List String := []
  isPublic : Bool := false
  isAsync : Bool := false
  name : String
  /-- Parameters with their types. -/
  params : List (String × String) := []
  result : Option String := none
  body : List Stmt := []
  deriving Repr

/-- An item of a file. -/
inductive Item where
  /-- Paths that are imported together. -/
  | uses (paths : List String)
  | constant (c : Constant)
  | record (r : Record)
  | function (f : Function)
  /-- A module in a file of its own. -/
  | submodule (attributes : List String) (isPublic : Bool) (name : String)
  | reexport (path : String)
  deriving Repr

/-- A file of emitted code. -/
structure File where
  items : List Item
  deriving Repr

end Rowsmith.Code
