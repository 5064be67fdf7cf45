/-
# Declarations

What a source tree declares: structs with their fields, wrappers of one value, synonyms, and types
that no column can have. A declaration is known by its module and its name.
-/

import Rowsmith.Declaration.Primitive

namespace Rowsmith

/-- The place of a declared type: its module and its name. -/
structure TypePath where
  module : String
  name : String
  deriving DecidableEq, Repr

/-- The path in full. -/
def TypePath.display (p : TypePath) : String :=
  p.module ++ "::" ++ p.name

/-- What a written type refers to. -/
inductive TypeRef where
  | primitive (kind : Primitive)
  /-- Another declaration, known by its path. -/
  | named (path : TypePath)
  /-- A type that no column can have, as written. -/
  | unsupported (text : String)
  deriving DecidableEq, Repr

/-- A field of a struct. -/
structure FieldDecl where
  /-- The name without the mark of a raw name. -/
  name : String
  type : TypeRef
  /-- The type as written, for messages. -/
  typeText : String
  /-- The column type that the field asks for. -/
  columnType : Option String
  /-- Whether the field is marked as the identity. -/
  isIdentity : Bool
  deriving DecidableEq, Repr

/-- What is declared. -/
inductive DeclKind where
  /-- A struct with named fields; `marked` says whether it derives `Entity`. -/
  | struct (fields : List FieldDecl) (marked : Bool)
  /-- A struct around one unnamed value. -/
  | newtype (inner : TypeRef)
  /-- Another name for a type. -/
  | synonym (target : TypeRef)
  /-- Anything that no column can have. -/
  | other
  deriving DecidableEq, Repr

/-- A declaration. -/
structure Decl where
  path : TypePath
  kind : DeclKind
  deriving DecidableEq, Repr

namespace Decl

/-- The name without its module. -/
def name (d : Decl) : String :=
  d.path.name

/-- Whether the declaration is a struct that derives `Entity`. -/
def isMarked (d : Decl) : Bool :=
  match d.kind with
  | .struct _ marked => marked
  | _ => false

end Decl

end Rowsmith
