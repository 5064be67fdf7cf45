/-
# Metadata of an entity

The table, the columns and the identity of a struct that derives `Entity`, read off its definition
alone.
-/

import Rowsmith.Source.Parse
import Rowsmith.Text.Blank
import Rowsmith.Text.SnakeCase

namespace Rowsmith

open Source Text

/-- Why a definition has no metadata. -/
inductive MetadataError where
  /-- An attribute does not follow its grammar. -/
  | malformed
  | unknownOption (name : String)
  | emptyColumnType
  | notStruct
  | unnamedFields
  | noIdentity
  | duplicateIdentity (first : String)
  deriving DecidableEq, Repr

namespace MetadataError

/-- The wording of an error, where it has one of its own. -/
def message? : MetadataError → Option String
  | malformed => none
  | unknownOption name =>
    some s!"unknown dbcrud attribute `{name}` (expected `id` or `type`)"
  | emptyColumnType => some "empty column type"
  | notStruct => some "Entity can only be derived for structs"
  | unnamedFields => some "Entity can only be derived for structs with named fields"
  | noIdentity => some "Entity needs an `id` field or a field marked #[dbcrud(id)]"
  | duplicateIdentity first =>
    some s!"duplicate #[dbcrud(id)]: `{first}` is already the identity"

end MetadataError

/-- The column that is the identity where no field is marked. -/
def defaultIdentity : String :=
  "id"

/-- The metadata of an entity. -/
structure Metadata where
  table : String
  columns : List String
  identity : String
  deriving DecidableEq, Repr

namespace Metadata

/-- Whether `name` is a column. -/
def hasColumn (m : Metadata) (name : String) : Bool :=
  m.columns.contains name

/-- Reads the options that an attribute lists and tells whether one of them marks the identity.
`marked` says whether an earlier one does. -/
def readOptions (marked : Bool) : List Token → Except MetadataError Bool
  | [] => .ok marked
  | .name n :: rest =>
    match n.written, rest with
    | "id", [] => .ok true
    | "id", .punct ',' _ :: rest => readOptions true rest
    | "type", .punct '=' _ :: .literal text :: rest =>
      match Literal.string? text, rest with
      | none, _ => .error .malformed
      | some value, rest =>
        if isBlankText value then .error .emptyColumnType
        else
          match rest with
          | [] => .ok marked
          | .punct ',' _ :: rest => readOptions marked rest
          | _ => .error .malformed
    | "id", _ => .error .malformed
    | "type", _ => .error .malformed
    | other, _ => .error (.unknownOption other)
  | _ => .error .malformed

/-- Whether the attributes of a field mark it as the identity. -/
def marksIdentity (marked : Bool) : List Attribute → Except MetadataError Bool
  | [] => .ok marked
  | a :: attributes =>
    if a.isNamed "dbcrud" then
      match a.body with
      | .arguments tokens => do marksIdentity (marked || (← readOptions false tokens)) attributes
      | _ => .error .malformed
    else marksIdentity marked attributes

/-- Reads the columns of fields: all of them, and the one that is marked. `first` is a marked column
before them. -/
def readFields (first : Option String) :
    List Field → Except MetadataError (List String × Option String)
  | [] => .ok ([], first)
  | f :: fields => do
    let column := snakeCase f.name.text
    if ← marksIdentity false f.attributes then
      match first with
      | some first => throw (.duplicateIdentity first)
      | none =>
        let (columns, identity) ← readFields (some column) fields
        return (column :: columns, identity)
    else
      let (columns, identity) ← readFields first fields
      return (column :: columns, identity)

/-- The metadata of an entity with the given name and fields. -/
def ofFields (name : String) (fields : List Field) : Except MetadataError Metadata := do
  let (columns, marked) ← readFields none fields
  match marked with
  | some column => return ⟨snakeCase name, columns, column⟩
  | none =>
    if columns.contains defaultIdentity then return ⟨snakeCase name, columns, defaultIdentity⟩
    else throw .noIdentity

/-- The metadata of a definition. -/
def ofDefinition (d : Definition) : Except MetadataError Metadata :=
  match d.body with
  | .struct (.named fields) => ofFields d.name.text fields
  | .struct _ => .error .unnamedFields
  | _ => .error .notStruct

end Metadata

namespace Source.Definition

/-- Writes type parameters in angle brackets, lifetimes first, each as `write` has it. -/
def writeParameters (write : Parameter → List Token) (ps : List Parameter) : String :=
  if ps.isEmpty then ""
  else
    let args := ps.map fun p => (p.isLifetime, write p)
    let trailing := (ps.getLast?.map Parameter.comma).getD false
    Token.compact ([.punct '<' false] ++ Grammar.lifetimesFirst args trailing ++ [.punct '>' false])

/-- The type parameters as an implementation declares them. -/
def declaredParameters (d : Definition) : String :=
  writeParameters Parameter.declared d.parameters

/-- The defined type with its type parameters as arguments. -/
def selfType (d : Definition) : String :=
  Token.compact [.name d.name] ++ writeParameters Parameter.used d.parameters

/-- The where clause, if it has a predicate. -/
def constraintText (d : Definition) : Option String :=
  d.constraints.map Token.compact

end Source.Definition

end Rowsmith
