/-
# Errors of data access

What can go wrong when rows are read and written.
-/

namespace Rowsmith

/-- The operations on the rows of a table. -/
inductive Operation where
  | insert
  | select
  | selectById
  | update
  | updateById
  | delete
  | deleteById
  deriving DecidableEq, Repr

/-- The name of an operation in messages. -/
def Operation.display : Operation → String
  | insert => "Insert"
  | select => "Select"
  | selectById => "SelectByID"
  | update => "Update"
  | updateById => "UpdateByID"
  | delete => "Delete"
  | deleteById => "DeleteByID"

/-- The payload that a field is part of. -/
inductive FieldRole where
  /-- The new values of an update. -/
  | update
  /-- The condition on the rows. -/
  | query
  deriving DecidableEq, Repr

/-- The name of a payload in messages. -/
def FieldRole.display : FieldRole → String
  | update => "update"
  | query => "query"

/-- What can go wrong when rows are read and written. -/
inductive AccessError where
  /-- A field of a payload is no column. -/
  | unknownField (operation : Operation) (role : FieldRole) (field : String)
  /-- No row has the identity. -/
  | notFound (operation : Operation) (id : Int64)
  /-- Several rows have the identity. -/
  | ambiguous (operation : Operation) (count : Nat)
  /-- A change by identity met no row. -/
  | noSuchId (operation : Operation)
  /-- A selection has more rows than are allowed. -/
  | tooManyRows (max : Nat)
  /-- The context carries no connection. -/
  | noConnection
  /-- The context carries a connection of another type. -/
  | wrongConnection (expected : String)
  /-- A column of a row cannot be read. -/
  | decode (column text : String)
  deriving DecidableEq, Repr

namespace AccessError

/-- The wording of an error. -/
def message : AccessError → String
  | unknownField operation role field =>
    s!"{operation.display}: no such field to {role.display} - {field}"
  | notFound operation id => s!"{operation.display}: id not found - {id.toInt}"
  | ambiguous operation count => s!"{operation.display}: found {count} entries with id"
  | noSuchId operation => s!"{operation.display}: no such ID"
  | tooManyRows max => s!"select query exceeded max responses ({max})"
  | noConnection => "no DB on context"
  | wrongConnection expected => s!"DB context value is not a {expected}"
  | decode column text => s!"Decode error on column '{column}': {text}"

/-- Whether a field of a payload is no column. -/
def isUnknownField : AccessError → Bool
  | unknownField .. => true
  | _ => false

/-- Whether an identity was not found. -/
def isNotFound : AccessError → Bool
  | notFound .. | noSuchId _ => true
  | _ => false

/-- Whether a selection had too many rows. -/
def isTooManyRows : AccessError → Bool
  | tooManyRows _ => true
  | _ => false

/-- The operation that failed, where it is known. -/
def operation? : AccessError → Option Operation
  | unknownField operation .. | notFound operation _ | ambiguous operation _
  | noSuchId operation => some operation
  | tooManyRows _ => some .select
  | _ => none

end AccessError

end Rowsmith
