/-
# Phrases that contain each other

Types, expressions, patterns and items of the Rust language nest in each other without limit. Each
phrase is a reader over a record of the readers of all of them, and the record that reads phrases
up to a given depth is built from the one for the depth below it. No reader calls itself.
-/

import Rowsmith.Source.Reader
import Rowsmith.Source.Tree

namespace Rowsmith.Source

/-- What the rules for expressions ask of an expression that was read. -/
inductive Shape where
  /-- A range, which no operator may follow. -/
  | range
  /-- A comparison, which no comparison may follow. -/
  | comparison
  /-- An expression that ends at its closing brace, such as a loop. -/
  | block
  /-- A macro call in braces. -/
  | braced
  | other
  deriving DecidableEq, Repr

/-- What the rules for types ask of a type that was read. -/
inductive TypeForm where
  | paren (inner : TypeExpr)
  | path (path : Path) (tokens : List Token)
  /-- A single bound that is no path, without the word `dyn`. -/
  | bound (tokens : List Token)
  | other (tokens : List Token)

/-- The type itself. -/
def TypeForm.type : TypeForm → TypeExpr
  | paren inner => .paren inner
  | path p ts => .path p ts
  | bound ts => .other ts
  | other ts => .other ts

/-- The readers of the phrases that contain each other. -/
structure Grammar where
  /-- A type; the flag says whether it may be a sum of bounds. -/
  form (plus : Bool) : Reader TypeForm
  /-- The arguments of a path in angle brackets: the tokens of each. -/
  arguments : Reader (List (List Token))
  /-- An expression; the flag says whether a path followed by a brace is a struct value. -/
  expression (structs : Bool) : Reader Shape
  /-- An operand with the operators before it. -/
  unary (structs : Bool) : Reader Shape
  /-- The operators of rank `base` and above after an expression, with their right sides. -/
  operators (structs : Bool) (base : Nat) (left : Shape) : Reader Shape
  /-- An expression in a place where one that ends at its brace ends the phrase, unless a point or
  a question mark follows. -/
  early : Reader Shape
  /-- The statements of a block, up to its end. -/
  statements : Reader Unit
  /-- A pattern without alternatives. Answers whether it is a range that lacks a bound. -/
  pattern : Reader Bool
  /-- Named fields in braces. -/
  fields : Reader (List Field)
  item : Reader Item
  /-- The tree of a `use` item; the flag says whether a tree inside may start with `::`. Answers
  none where one does. -/
  useTree (root : Bool) : Reader (Option UseTree)

namespace Grammar

/-- The grammar of no phrase. -/
def empty : Grammar where
  form _ := Reader.refuse
  arguments := Reader.refuse
  expression _ := Reader.refuse
  unary _ := Reader.refuse
  operators _ _ _ := Reader.refuse
  early := Reader.refuse
  statements := Reader.refuse
  pattern := Reader.refuse
  fields := Reader.refuse
  item := Reader.refuse
  useTree _ := Reader.refuse

/-- Reads a type. -/
def type (g : Grammar) (plus : Bool) : Reader TypeExpr := do
  return (← g.form plus).type

open Reader Token

/-! ## Places in the module tree -/

/-- Whether a name or a word for a place in the module tree comes first. -/
def startsWithPlaceName (ts : List Token) : Bool :=
  startsWithName ts || startsWithOneOf ["self", "super", "Self", "crate"] ts

/-- Reads the names of a path without arguments, at most `steps` of them. -/
def placeNames : (steps : Nat) → Reader (List Name)
  | 0 => refuse
  | steps + 1 => do
    require startsWithPlaceName
    let n ← anyName
    if ← punct? "::" then return n :: (← placeNames steps)
    return [n]

/-- Reads a path without arguments: whether it starts with `::`, and its names. -/
def place : Reader (Bool × List Name) := do
  let global ← punct? "::"
  return (global, ← placeNames ((← rest).length + 1))

/-! ## Attributes -/

/-- Reads what stands between the brackets of an attribute. -/
def attributeContent (g : Grammar) : Reader Attribute := do
  let (global, path) ← if ← ahead (startsWithWord "unsafe") then
    pure (false, [← anyName])
  else place
  match ← rest with
  | .group _ body :: _ =>
    skip 1
    return ⟨global, path, .arguments body⟩
  | _ =>
    if ← punct? "=" then
      if ← canRead (do literal; require List.isEmpty) then literal
      else if (← ahead (startsWith "#")) && (← aheadAfter 1 (startsWithGroup .bracket)) then refuse
      else let _ ← g.expression true
      return ⟨global, path, .value⟩
    return ⟨global, path, .none⟩

/-- Reads the attributes of what follows. -/
def outerAttributes (g : Grammar) : Reader (List Attribute) :=
  many (startsWith "#") do
    punct "#"
    inside .bracket g.attributeContent

/-- Reads the attributes of what encloses this place. -/
def innerAttributes (g : Grammar) : Reader Unit := do
  let _ ← many (fun ts => startsWith "#" ts && startsWith "!" (ts.drop 1)) do
    punct "#"
    punct "!"
    inside .bracket g.attributeContent

/-- Reads a block whose content may start with attributes of the block. -/
def attributedBlock (g : Grammar) : Reader Unit :=
  inside .brace do
    g.innerAttributes
    g.statements

/-- Reads a block. -/
def block (g : Grammar) : Reader Unit :=
  inside .brace g.statements

end Grammar

end Rowsmith.Source
