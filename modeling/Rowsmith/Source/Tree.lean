/-
# Trees of a source file

The part of a parsed Rust file that declarations are collected from. Items, types and expressions
that no declaration can depend on are kept as their tokens, or not at all.
-/

import Rowsmith.Source.Token

namespace Rowsmith.Source

/-- A step of a path: a name and, if it has any, its arguments in angle brackets. -/
structure Segment where
  name : Name
  arguments : Option (List (List Token))
  deriving Repr

/-- A path as written. -/
structure Path where
  /-- Whether it starts with `::`. -/
  global : Bool
  segments : List Segment
  deriving Repr

/-- A type as written. -/
inductive TypeExpr where
  /-- A type in parentheses. -/
  | paren (inner : TypeExpr)
  /-- A path that does not start at another type, with its tokens. -/
  | path (path : Path) (tokens : List Token)
  /-- Any other type. -/
  | other (tokens : List Token)
  deriving Repr

namespace TypeExpr

/-- The tokens of a type. -/
def tokens : TypeExpr → List Token
  | paren inner => [.group .paren inner.tokens]
  | path _ tokens => tokens
  | other tokens => tokens

/-- The type as written, without plain blanks. -/
def text (t : TypeExpr) : String :=
  Token.compact t.tokens

end TypeExpr

/-- What follows the path of an attribute. -/
inductive AttributeBody where
  | none
  | arguments (tokens : List Token)
  | value
  deriving Repr

/-- An attribute. -/
structure Attribute where
  /-- Whether its path starts with `::`. -/
  global : Bool
  path : List Name
  body : AttributeBody
  deriving Repr

/-- Whether the path of the attribute is the one unmarked name `w`. -/
def Attribute.isNamed (a : Attribute) (w : String) : Bool :=
  !a.global && a.path.map Name.written == [w]

/-- A named field. -/
structure Field where
  attributes : List Attribute
  name : Name
  type : TypeExpr
  deriving Repr

/-- The fields of a struct. -/
inductive Fields where
  | named (fields : List Field)
  | unnamed (types : List TypeExpr)
  | unit
  deriving Repr

/-- The tree of a `use` item. -/
inductive UseTree where
  /-- `name::tree` -/
  | step (name : Name) (tree : UseTree)
  /-- `name` -/
  | leaf (name : Name)
  /-- `name as alias` -/
  | renamed (name rename : Name)
  /-- `*` -/
  | glob
  /-- The trees between braces. -/
  | group (trees : List UseTree)
  deriving Repr

/-- An item. -/
inductive Item where
  | imports (tree : UseTree)
  | struct (attributes : List Attribute) (name : Name) (fields : Fields)
  | synonym (name : Name) (target : TypeExpr)
  | enum (name : Name)
  /-- A module with its items, if they are in this file. -/
  | inline (name : Name) (items : Option (List Item))
  | other
  deriving Repr

/-- What a type parameter list of a definition declares. -/
structure Parameter where
  /-- Whether it is a lifetime. -/
  isLifetime : Bool
  /-- The parameter with its bounds and without its default. -/
  declared : List Token
  /-- The name of the parameter. -/
  used : List Token
  /-- Whether a comma follows. -/
  comma : Bool
  deriving Repr

/-- What a definition defines. -/
inductive DefinitionBody where
  | struct (fields : Fields)
  | enum
  | union
  deriving Repr

/-- The definition of a struct, an enum or a union on its own. -/
structure Definition where
  attributes : List Attribute
  name : Name
  parameters : List Parameter
  /-- The tokens of the where clause, if it has a predicate. -/
  constraints : Option (List Token)
  body : DefinitionBody
  deriving Repr

end Rowsmith.Source
