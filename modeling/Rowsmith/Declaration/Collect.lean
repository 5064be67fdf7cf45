/-
# Collecting declarations

Walks the items of a source file and records every struct, synonym and enum under the module it
stands in, the modules written out in the file included.
-/

import Rowsmith.Declaration.FieldOptions
import Rowsmith.Declaration.Scope
import Rowsmith.Declaration.Set
import Rowsmith.Source.Parse

namespace Rowsmith

open Source Text

namespace Collect

/-- The declaration of a field. -/
def field (scope : Scope) (f : Field) : Except SourceError FieldDecl := do
  let options ← FieldOptions.ofAttributes f.attributes
  return {
    name := f.name.text
    type := scope.classify f.type
    typeText := f.type.text
    columnType := options.columnType
    isIdentity := options.isIdentity }

/-- Whether one of the attributes derives `Entity`. Attributes after the first that does are not
read. -/
def derivesEntity : List Attribute → Except SourceError Bool
  | [] => .ok false
  | a :: attributes =>
    if a.isNamed "derive" then
      match a.body with
      | .arguments tokens =>
        match paths? tokens with
        | some paths =>
          if paths.any fun p => p.segments.getLast?.any fun s => s.name.written == "Entity" then
            .ok true
          else derivesEntity attributes
        | none => .error .malformed
      | _ => .error .malformed
    else derivesEntity attributes

/-- What a struct with the given attributes and fields declares. -/
def structKind (scope : Scope) (attributes : List Attribute) :
    Fields → Except SourceError DeclKind
  | .named fields => do
    let fields ← fields.mapM (field scope)
    return .struct fields (← derivesEntity attributes)
  | .unnamed [type] => return .newtype (scope.classify type)
  | _ => return .other

mutual

/-- Adds the declarations of an item of the module of `scope`. -/
def item (scope : Scope) (set : DeclSet) : Item → Except SourceError DeclSet
  | .struct attributes n fields => do
    return set.insert ⟨⟨scope.module, n.text⟩, ← structKind scope attributes fields⟩
  | .synonym n target =>
    return set.insert ⟨⟨scope.module, n.text⟩, .synonym (scope.classify target)⟩
  | .enum n => return set.insert ⟨⟨scope.module, n.text⟩, .other⟩
  | .inline n (some items) =>
    let module := scope.module ++ "::" ++ n.text
    itemList (Scope.ofItems module items) set items
  | _ => return set

/-- Adds the declarations of items of the module of `scope`, in order. -/
def itemList (scope : Scope) (set : DeclSet) : List Item → Except SourceError DeclSet
  | [] => return set
  | i :: is => do itemList scope (← item scope set i) is

end

/-- Adds the declarations of the items of a module. -/
def items (module : String) (set : DeclSet) (items : List Item) : Except SourceError DeclSet :=
  itemList (Scope.ofItems module items) set items

/-- Adds the declarations of a source file that is the module `module`. -/
def source (module text : String) (set : DeclSet) : Except SourceError DeclSet :=
  match parseFile? text with
  | some is => items module set is
  | none => .error .malformed

end Collect

end Rowsmith
