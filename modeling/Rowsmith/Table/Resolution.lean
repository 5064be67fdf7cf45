/-
# Resolving types

The kind of value that the type of a field comes down to. A type may name one declaration that
stands for a primitive kind; a declaration that stands for another declaration is too far away.
-/

import Rowsmith.Declaration.Set

namespace Rowsmith

/-- How the type of a field leads to its kind. -/
inductive Via where
  | direct
  /-- Through another name for the type. -/
  | synonym (path : TypePath)
  /-- Through a struct around one value. -/
  | newtype (path : TypePath)
  deriving DecidableEq, Repr

/-- What a type comes down to. -/
structure Resolved where
  kind : Primitive
  via : Via
  deriving DecidableEq, Repr

/-- Why a type comes down to no kind. -/
inductive ResolveError where
  /-- There is no such declaration. -/
  | unresolved (path : TypePath)
  /-- The declaration stands for another declaration. -/
  | chain (path target : TypePath)
  /-- No column can have the type. -/
  | unmappable (text : String)
  deriving DecidableEq, Repr

namespace Resolved

/-- What the inner type of a declaration comes down to. -/
def ofInner (path : TypePath) (via : Via) : TypeRef → Except ResolveError Resolved
  | .primitive kind => .ok ⟨kind, via⟩
  | .named target => .error (.chain path target)
  | .unsupported text => .error (.unmappable text)

/-- What a type comes down to. -/
def ofType (decls : DeclSet) : TypeRef → Except ResolveError Resolved
  | .primitive kind => .ok ⟨kind, .direct⟩
  | .unsupported text => .error (.unmappable text)
  | .named path =>
    match decls.get? path with
    | none => .error (.unresolved path)
    | some d =>
      match d.kind with
      | .synonym target => ofInner path (.synonym path) target
      | .newtype inner => ofInner path (.newtype path) inner
      | _ => .error (.unmappable path.display)

end Resolved

end Rowsmith
