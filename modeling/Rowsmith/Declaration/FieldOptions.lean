/-
# Options of a field

A field of an entity may carry attributes `dbcrud`, which list options: `id` marks the identity,
and `type = "…"` asks for a column type.
-/

import Rowsmith.Source.Literal
import Rowsmith.Source.Tree

namespace Rowsmith

open Source

/-- Why the declarations of a source text cannot be collected. -/
inductive SourceError where
  /-- The text does not follow the grammar. -/
  | malformed
  /-- A field has an option that does not exist. -/
  | unknownOption (name : String)
  deriving DecidableEq, Repr

/-- The wording of an error, where it has one of its own. -/
def SourceError.message? : SourceError → Option String
  | malformed => none
  | unknownOption name => some s!"unknown dbcrud attribute `{name}`"

/-- The options of a field. -/
structure FieldOptions where
  isIdentity : Bool := false
  columnType : Option String := none
  deriving DecidableEq, Repr

namespace FieldOptions

/-- Both options; of two column types the later one counts. -/
def merge (first later : FieldOptions) : FieldOptions where
  isIdentity := first.isIdentity || later.isIdentity
  columnType := later.columnType.or first.columnType

/-- Reads the options that an attribute lists, with a comma between each two and perhaps after the
last. -/
def ofTokens : List Token → Except SourceError FieldOptions
  | [] => .ok {}
  | .name n :: rest =>
    if n.written = "id" then more { isIdentity := true } rest
    else if n.written = "type" then
      match rest with
      | .punct '=' _ :: .literal text :: rest =>
        match Literal.string? text with
        | some value => more { columnType := some value } rest
        | none => .error .malformed
      | _ => .error .malformed
    else .error (.unknownOption n.written)
  | _ => .error .malformed
where
  /-- Goes on after an option. -/
  more (options : FieldOptions) : List Token → Except SourceError FieldOptions
    | [] => .ok options
    | .punct ',' _ :: rest => (ofTokens rest).map options.merge
    | _ => .error .malformed

/-- The options that an attribute lists. -/
def ofAttribute (a : Attribute) : Except SourceError FieldOptions :=
  match a.body with
  | .arguments tokens => ofTokens tokens
  | _ => .error .malformed

/-- The options that the attributes of a field list. -/
def ofAttributes (attributes : List Attribute) : Except SourceError FieldOptions :=
  (attributes.filter fun a => a.isNamed "dbcrud").foldlM
    (fun options a => return options.merge (← ofAttribute a)) {}

end FieldOptions

end Rowsmith
