/-
# Compiling entities

The table of a declared entity. Every field becomes a column in order. The identity is the one field
that is marked, or else the first whose column is called `id`, and its values have to be integers.
-/

import Rowsmith.Entity.Metadata
import Rowsmith.Table.Basic

namespace Rowsmith

open Text

/-- Why an entity has no table. -/
inductive CompileError where
  /-- The declaration has no named fields. -/
  | notAStruct (entity : String)
  | missingIdentity (entity : String)
  | duplicateIdentity (entity first second : String)
  | identityNotInteger (entity field typeText : String)
  /-- The type of a field is declared nowhere. -/
  | unresolvedType (entity field typeText : String)
  /-- The type of a field leads to another declaration. -/
  | synonymChain (entity field typeName target : String)
  /-- No column can have the type of a field. -/
  | noMapping (entity field typeText : String)
  | invalidOverride (entity field text : String) (reason : OverrideError)
  deriving DecidableEq, Repr

namespace CompileError

/-- The wording of an error. -/
def message : CompileError → String
  | notAStruct entity =>
    s!"`{entity}` is listed as an entity but is not a struct with named fields"
  | missingIdentity entity =>
    s!"{entity}: no identity field (expected `{defaultIdentity}` or a field marked #[dbcrud(id)])"
  | duplicateIdentity entity first second =>
    s!"{entity}: both `{first}` and `{second}` are marked #[dbcrud(id)]"
  | identityNotInteger entity field typeText =>
    s!"{entity}.{field}: identity must be i32 or i64, found `{typeText}`"
  | unresolvedType entity field typeText =>
    s!"{entity}.{field}: cannot resolve type `{typeText}`"
  | synonymChain entity field typeName target =>
    s!"{entity}.{field}: `{typeName}` refers to another named type `{target}`; " ++
      "only one level of indirection is supported"
  | noMapping entity field typeText =>
    s!"{entity}.{field}: no conversion from rust type `{typeText}` to a SQL column type"
  | invalidOverride entity field text reason =>
    s!"{entity}.{field}: invalid column type override `{text}`: {reason.message}"

/-- The entity that has no table. -/
def entity : CompileError → String
  | notAStruct entity | missingIdentity entity | duplicateIdentity entity .. |
    identityNotInteger entity .. | unresolvedType entity .. | synonymChain entity .. |
    noMapping entity .. | invalidOverride entity .. => entity

/-- The error for a field whose type comes down to no kind. -/
def ofResolve (entity : String) (f : FieldDecl) : ResolveError → CompileError
  | .unresolved _ => unresolvedType entity f.name f.typeText
  | .chain path target => synonymChain entity f.name path.name target.display
  | .unmappable _ => noMapping entity f.name f.typeText

end CompileError

namespace Table

/-- Position of the field that is the identity of an entity. -/
def identityIndex (entity : String) (fields : List FieldDecl) : Except CompileError Nat :=
  match fields.filter FieldDecl.isIdentity with
  | first :: second :: _ => .error (.duplicateIdentity entity first.name second.name)
  | [_] => .ok (fields.findIdx FieldDecl.isIdentity)
  | [] =>
    match fields.findIdx? fun f => snakeCase f.name = defaultIdentity with
    | some i => .ok i
    | none => .error (.missingIdentity entity)

/-- The column of a field. `isIdentity` says whether it is the identity. -/
def column (decls : DeclSet) (textBound : Nat) (entity : String) (isIdentity : Bool)
    (f : FieldDecl) : Except CompileError Column := do
  let resolved ← (Resolved.ofType decls f.type).mapError (CompileError.ofResolve entity f)
  let type ← (ColumnType.ofKind textBound resolved.kind f.columnType).mapError
    (CompileError.invalidOverride entity f.name (f.columnType.getD ""))
  if isIdentity && !resolved.kind.isInteger then
    throw (.identityNotInteger entity f.name f.typeText)
  return {
    name := snakeCase f.name
    field := f.name
    type := type
    kind := resolved.kind
    via := resolved.via
    primaryKey := isIdentity
    autoIncrement := isIdentity }

/-- The columns of fields, of which that at position `identity` is the identity. -/
def columnsOf (decls : DeclSet) (textBound : Nat) (entity : String) (identity : Nat)
    (fields : List FieldDecl) : Except CompileError (List Column) :=
  fields.zipIdx.mapM fun f => column decls textBound entity (f.2 = identity) f.1

/-- The table of a declared entity. -/
def compile (decls : DeclSet) (textBound : Nat) (entity : Decl) : Except CompileError Table :=
  match entity.kind with
  | .struct fields _ => do
    let identity ← identityIndex entity.name fields
    let columns ← columnsOf decls textBound entity.name identity fields
    return ⟨entity.path, snakeCase entity.name, columns⟩
  | _ => .error (.notAStruct entity.name)

end Table

end Rowsmith
