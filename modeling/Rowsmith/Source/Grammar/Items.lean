/-
# Statements and items

The phrases of a file: what stands in a block, and the definitions of functions, types, traits and
modules. Of an item only what declarations are collected from is kept.
-/

import Rowsmith.Source.Grammar.Expressions

namespace Rowsmith.Source.Grammar

open Reader Token

/-! ## Statements -/

/-- Reads the binding of a pattern to a value. -/
def binding (g : Grammar) : Reader Unit := do
  word "let"
  let _ ← g.pattern
  if ← punct? ":" then
    let _ ← g.type true
  if ← punct? "=" then
    let _ ← g.expression true
    let closed ← afterBrace
    if !closed && (← ahead (startsWithWord "else")) then
      skip 1
      g.block
  punct ";"
where
  /-- Whether the token read last is a group in braces. -/
  afterBrace : Reader Bool := fun s => some (startsWithGroup .brace (s.read.take 1), s)

/-- Whether the words of a statement start an item. -/
def startsWithItemWord (ts : List Token) : Bool :=
  let second := ts.drop 1
  let third := ts.drop 2
  startsWithOneOf ["pub", "extern", "use", "fn", "mod", "type", "struct", "enum", "trait", "impl",
      "macro"] ts ||
    startsWithWord "crate" ts && !startsWith "::" second ||
    startsWithWord "static" ts && (startsWithWord "mut" second || startsWithName second) ||
    startsWithWord "const" ts && !(startsWithGroup .brace second ||
      startsWithOneOf ["static", "move"] second || startsWith "|" second ||
      startsWithWord "async" second && !startsWithOneOf ["unsafe", "extern", "fn"] third) ||
    startsWithWord "unsafe" ts && !startsWithGroup .brace second ||
    startsWithWord "async" ts && startsWithOneOf ["unsafe", "extern", "fn"] second ||
    startsWithWord "union" ts && startsWithName second ||
    startsWithWord "auto" ts && startsWithWord "trait" second ||
    startsWithWord "default" ts && startsWithOneOf ["unsafe", "impl"] second

/-- The tokens after the path of a macro call that comes next. -/
def afterMacroPath? : Reader (Option (List Token)) := fun s =>
  let after := match place s with
    | some (_, t) => if startsWith "!" t.rest then some t.rest else none
    | none => none
  some (after, s)

/-- Reads a statement, where `restOfItem` reads an item after its attributes. Answers whether a
semicolon has to follow unless the block ends. -/
def statement (g : Grammar) (restOfItem : List Attribute → Reader Item) : Reader Bool := do
  let attributes ← g.outerAttributes
  let call := (← afterMacroPath?).getD []
  let definesMacro := startsWithName (call.drop 1) || startsWithWord "try" (call.drop 1)
  let braced := startsWithGroup .brace (call.drop 1) &&
    !(startsWith "." (call.drop 2) && !startsWith ".." (call.drop 2) || startsWith "?" (call.drop 2))
  if braced && !definesMacro then
    let _ ← place
    punct "!"
    let _ ← anyGroup
    let _ ← punct? ";"
    return false
  if ← ahead (startsWithWord "let") then
    g.binding
    return false
  if definesMacro || (← ahead startsWithItemWord) then
    let _ ← restOfItem attributes
    return false
  let shape ← g.early
  if ← punct? ";" then return false
  return shape ≠ .block && shape ≠ .braced

/-- Reads the statements of a block, at most `steps` of them. -/
def statementSteps (g : Grammar) (restOfItem : List Attribute → Reader Item) :
    (steps : Nat) → Reader Unit
  | 0 => refuse
  | steps + 1 => do
    let _ ← many (startsWith ";") (skip 1)
    unless ← ahead List.isEmpty do
      let open? ← g.statement restOfItem
      unless ← ahead List.isEmpty do
        if open? then refuse
        g.statementSteps restOfItem steps

/-! ## Visibility -/

/-- Reads a visibility; answers whether there is none. -/
def visibility : Reader Bool := do
  unless ← word? "pub" do return true
  match ← rest with
  | .group .paren ts :: _ =>
    if startsWithOneOf ["crate", "self", "super"] ts && ts.length == 1 then skip 1
    else if startsWithWord "in" ts then
      inside .paren do
        word "in"
        let _ ← place
    return false
  | _ => return false

/-! ## Functions -/

/-- Whether the head of a function starts here. `safe` says whether it may be marked as safe. -/
def startsWithFunction (safe : Bool) (ts : List Token) : Bool :=
  let drop (ws : List String) (ts : List Token) : List Token :=
    if startsWithOneOf ws ts then ts.drop 1 else ts
  let ts := drop ["async"] (drop ["const"] ts)
  let ts := drop (if safe then ["safe", "unsafe"] else ["unsafe"]) ts
  let ts := if startsWithWord "extern" ts then
      if startsWithString (ts.drop 1) then ts.drop 2 else ts.drop 1
    else ts
  startsWithWord "fn" ts

/-- Reads the parameter `self` of a method. -/
def receiver (g : Grammar) : Reader Unit := do
  let byRef ← punct? "&"
  if byRef then
    let _ ← lifetime?
  let _ ← word? "mut"
  word "self"
  unless byRef do
    if ← punct? ":" then
      let _ ← g.type true

/-- Reads the parameters of a function, at most `steps` of them. `first` holds before the first,
the only one that can be a receiver. -/
def functionParameters (g : Grammar) (first : Bool) : (steps : Nat) → Reader Unit
  | 0 => refuse
  | steps + 1 => do
    unless ← ahead List.isEmpty do
      let _ ← g.outerAttributes
      if ← punct? "..." then variadicEnd
      else
        let variadic ← do
          if ← canRead g.receiver then
            g.receiver
            if !first then refuse
            pure false
          else if ← ahead fun ts => startsWithName ts && startsWith "<" (ts.drop 1) then
            let _ ← g.type true
            pure false
          else
            let _ ← g.pattern
            punct ":"
            if ← punct? "..." then pure true
            else
              let _ ← g.type true
              pure false
        if variadic then variadicEnd
        else unless ← ahead List.isEmpty do
          punct ","
          g.functionParameters false steps
where
  /-- Reads the comma that may follow the dots of a variadic function. -/
  variadicEnd : Reader Unit := do
    unless ← ahead List.isEmpty do punct ","

/-- Reads the head of a function. `safe` says whether it may be marked as safe. -/
def functionHead (g : Grammar) (safe : Bool) : Reader Unit := do
  let _ ← word? "const"
  let _ ← word? "async"
  unless ← word? "unsafe" do
    if safe then
      let _ ← word? "safe"
  when (startsWithWord "extern") abi
  word "fn"
  let _ ← name
  let _ ← g.parameters
  inside .paren do g.functionParameters true ((← rest).length + 1)
  g.returnType true
  let _ ← g.whereClause

/-- Reads the head of a function and its body, or a semicolon in place of the body. -/
def function (g : Grammar) (safe : Bool) : Reader Unit := do
  g.functionHead safe
  unless ← punct? ";" do g.attributedBlock

/-! ## Structs, enums and unions -/

/-- Reads a named field. -/
def field (g : Grammar) : Reader Field := do
  let attributes ← g.outerAttributes
  let _ ← visibility
  let unnamed ← ahead (startsWithWord "_")
  let n ← if unnamed then anyName else name
  punct ":"
  let anonymous ← ahead fun ts => unnamed &&
    (startsWithWord "struct" ts || startsWithWord "union" ts && startsWithGroup .brace (ts.drop 1))
  if anonymous then
    let (_, tokens) ← withTokens (skip 1)
    let (_, body) ← withTokens g.fields
    return ⟨attributes, n, .other (tokens ++ body)⟩
  return ⟨attributes, n, ← g.type true⟩

/-- Reads named fields in braces. -/
def namedFields (g : Grammar) : Reader (List Field) :=
  inside .brace (listed g.field)

/-- Reads the types of fields in parentheses. -/
def unnamedFields (g : Grammar) : Reader (List TypeExpr) :=
  inside .paren <| listed do
    let _ ← g.outerAttributes
    let _ ← visibility
    g.type true

/-- Reads a struct after its type parameters: the tokens of its where clause, and its fields. -/
def structBody (g : Grammar) : Reader (Option (List Token) × Fields) := do
  let constrained ← ahead (startsWithWord "where")
  let constraints ← g.whereClause
  if !constrained && (← ahead (startsWithGroup .paren)) then
    let types ← g.unnamedFields
    let constraints ← g.whereClause
    punct ";"
    return (constraints, .unnamed types)
  if ← ahead (startsWithGroup .brace) then return (constraints, .named (← g.namedFields))
  punct ";"
  return (constraints, .unit)

/-- Reads a variant of an enum. -/
def variant (g : Grammar) : Reader Unit := do
  let _ ← g.outerAttributes
  let _ ← visibility
  let _ ← name
  if ← ahead (startsWithGroup .brace) then
    let _ ← g.namedFields
  else if ← ahead (startsWithGroup .paren) then
    let _ ← g.unnamedFields
  if ← punct? "=" then
    let _ ← g.expression true

/-- Reads an enum after its type parameters: the tokens of its where clause. -/
def enumBody (g : Grammar) : Reader (Option (List Token)) := do
  let constraints ← g.whereClause
  let _ ← inside .brace (listed g.variant)
  return constraints

/-- Reads a union after its type parameters: the tokens of its where clause. -/
def unionBody (g : Grammar) : Reader (Option (List Token)) := do
  let constraints ← g.whereClause
  let _ ← g.namedFields
  return constraints

/-- Reads the definition of a struct, an enum or a union. -/
def definition (g : Grammar) : Reader Definition := do
  let attributes ← g.outerAttributes
  let _ ← visibility
  if ← word? "struct" then
    let n ← name
    let ps ← g.parameters
    let (constraints, fields) ← g.structBody
    return ⟨attributes, n, ps, constraints, .struct fields⟩
  if ← word? "enum" then
    let n ← name
    let ps ← g.parameters
    return ⟨attributes, n, ps, ← g.enumBody, .enum⟩
  word "union"
  let n ← name
  let ps ← g.parameters
  return ⟨attributes, n, ps, ← g.unionBody, .union⟩

/-! ## Use trees -/

/-- Reads the tree of a `use` item. `root` says whether a tree inside may start with `::`; the answer
is none where one does. -/
def importTree (g : Grammar) (root : Bool) : Reader (Option UseTree) := do
  if ← punct? "*" then return some .glob
  if ← ahead (startsWithGroup .brace) then
    let trees ← inside .brace <| listed do
      let global ← do
        if root && (← ahead (startsWith "::")) then punct? "::" else pure false
      let tree ← g.useTree (root && !global)
      return if global then none else tree
    return if trees.all Option.isSome then some (.group (trees.filterMap id)) else none
  require fun ts => startsWithName ts || startsWithOneOf ["self", "super", "crate", "try"] ts
  let n ← anyName
  if ← punct? "::" then
    return (← g.useTree false).map (.step n)
  if ← word? "as" then
    require fun ts => startsWithName ts || startsWithWord "_" ts
    return some (.renamed n (← anyName))
  return some (.leaf n)

/-! ## Traits and implementations -/

/-- Reads bounds with a plus between each two, up to where `stop` holds. -/
def boundsUpTo (g : Grammar) (const : Bool) (stop : List Token → Bool) : Reader Unit := do
  let _ ← separated "+" stop (g.bound false const)

/-- Reads the synonym of a type after its visibility. The flags say whether a where clause may stand
before the `=`, and after it. Answers the name and the target, if the synonym is a plain one. -/
def synonym (g : Grammar) (before after : Bool) : Reader (Name × Option TypeExpr) := do
  word "type"
  let n ← name
  let _ ← g.parameters
  let bounded ← punct? ":"
  if bounded then
    g.boundsUpTo true fun ts => startsWithWord "where" ts || startsWith "=" ts || startsWith ";" ts
  let constrained ← ahead fun ts => before && startsWithWord "where" ts
  if before then
    let _ ← g.whereClause
  let target ← if ← punct? "=" then some <$> g.type true else pure none
  if after && !constrained then
    let _ ← g.whereClause
  punct ";"
  return (n, if bounded then none else target)

/-- Reads a constant after its first word. -/
def constant (g : Grammar) : Reader Unit := do
  require fun ts => startsWithName ts || startsWithWord "_" ts
  skip 1
  let _ ← g.parameters
  punct ":"
  let _ ← g.type true
  if ← punct? "=" then
    let _ ← g.expression true
  let _ ← g.whereClause
  punct ";"

/-- Reads a macro call in the place of an item. `named` says whether a name may stand before the
brackets. -/
def macroItem (named : Bool) : Reader Unit := do
  let _ ← place
  punct "!"
  if named then when (fun ts => startsWithName ts || startsWithWord "try" ts) (skip 1)
  if (← anyGroup) ≠ .brace then punct ";"

/-- Reads an item of a trait. -/
def traitItem (g : Grammar) : Reader Unit := do
  let _ ← g.outerAttributes
  let inherited ← visibility
  let isDefault ← word? "default"
  if ← ahead (startsWithFunction false) then g.function false
  else if ← word? "const" then g.constant
  else if ← ahead (startsWithWord "type") then
    let _ ← g.synonym false true
  else
    if !inherited || isDefault then refuse
    require startsWithPlace
    macroItem false

/-- Reads an item of an implementation. -/
def implItem (g : Grammar) : Reader Unit := do
  let _ ← g.outerAttributes
  let inherited ← visibility
  let isDefault ← ahead fun ts => startsWithWord "default" ts && !startsWith "!" (ts.drop 1)
  if isDefault then skip 1
  if ← ahead (startsWithFunction false) then g.function false
  else if ← word? "const" then g.constant
  else if ← ahead (startsWithWord "type") then
    let _ ← g.synonym false true
  else
    if !inherited || isDefault then refuse
    require startsWithPlace
    macroItem false

/-- Reads an item of a block of foreign items. -/
def foreignItem (g : Grammar) : Reader Unit := do
  let _ ← g.outerAttributes
  let inherited ← visibility
  if ← ahead (startsWithFunction true) then g.function true
  else if ← ahead fun ts => startsWithWord "static" ts ||
      startsWithOneOf ["safe", "unsafe"] ts && startsWithWord "static" (ts.drop 1) then
    unless ← word? "static" do skip 2
    let _ ← word? "mut"
    let _ ← name
    punct ":"
    let _ ← g.type true
    if ← punct? "=" then
      let _ ← g.expression true
    punct ";"
  else if ← ahead (startsWithWord "type") then
    let _ ← g.synonym true true
  else
    if !inherited then refuse
    require startsWithPlace
    macroItem false

/-- Reads items in braces, after the attributes of what encloses them. -/
def members (g : Grammar) (item : Reader Unit) : Reader Unit :=
  inside .brace do
    g.innerAttributes
    let _ ← toEnd item

/-- Reads what follows the type parameters of a trait. -/
def traitBody (g : Grammar) : Reader Unit := do
  if ← punct? ":" then
    g.boundsUpTo true fun ts => startsWithWord "where" ts || startsWithGroup .brace ts
  let _ ← g.whereClause
  g.members g.traitItem

/-- Reads a trait or a name for a sum of bounds. -/
def traitDefinition (g : Grammar) : Reader Unit := do
  word "trait"
  let _ ← name
  let _ ← g.parameters
  if ← punct? "=" then
    g.boundsUpTo false fun ts => startsWithWord "where" ts || startsWith ";" ts
    let _ ← g.whereClause
    punct ";"
  else g.traitBody

/-- Reads a trait with a mark before its first word. -/
def markedTrait (g : Grammar) : Reader Unit := do
  let _ ← word? "auto"
  word "trait"
  let _ ← name
  let _ ← g.parameters
  g.traitBody

/-- Whether type parameters come next, rather than a path that starts at a type. -/
def startsWithParameters (ts : List Token) : Bool :=
  let second := ts.drop 1
  let third := ts.drop 2
  startsWith "<" ts && (startsWith ">" second || startsWith "#" second ||
    startsWithWord "const" second || (startsWithLifetime second || startsWithName second) &&
      (startsWith ">" third || startsWith "," third ||
        startsWith ":" third && !startsWith "::" third || startsWith "=" third))

/-- Reads an implementation. -/
def implementation (g : Grammar) : Reader Unit := do
  let _ ← word? "default"
  let _ ← word? "unsafe"
  word "impl"
  if ← ahead startsWithParameters then
    let _ ← g.parameters
  let conditional ← ahead fun ts => startsWithWord "const" ts ||
    startsWith "?" ts && startsWithWord "const" (ts.drop 1)
  if conditional then
    let _ ← punct? "?"
    skip 1
  let negative ← ahead fun ts => startsWith "!" ts && !startsWithGroup .brace (ts.drop 1)
  if negative then skip 1
  let _ ← g.type true
  if ← word? "for" then
    let _ ← g.type true
  else if negative then refuse
  let _ ← g.whereClause
  g.members g.implItem

/-! ## Items -/

/-- Reads a block of foreign items. -/
def foreignBlock (g : Grammar) : Reader Unit := do
  let _ ← word? "unsafe"
  abi
  g.members g.foreignItem

/-- Reads the naming of another crate. -/
def externCrate : Reader Unit := do
  skip 2
  if ← ahead (startsWithWord "self") then skip 1
  else let _ ← name
  if ← word? "as" then
    require fun ts => startsWithName ts || startsWithWord "_" ts
    skip 1
  punct ";"

/-- Reads a static variable. -/
def staticItem (g : Grammar) : Reader Unit := do
  word "static"
  let _ ← word? "mut"
  let _ ← name
  unless ← ahead (startsWith "=") do
    punct ":"
    let _ ← g.type true
  if ← punct? "=" then
    let _ ← g.expression true
  punct ";"

/-- Reads a module. -/
def moduleItem (g : Grammar) : Reader Item := do
  let _ ← word? "unsafe"
  word "mod"
  let n ← if ← ahead (startsWithWord "try") then anyName else name
  if ← punct? ";" then return .inline n none
  let items ← inside .brace do
    g.innerAttributes
    toEnd g.item
  return .inline n (some items)

/-- Reads the definition of a macro by example. -/
def macroDefinition : Reader Unit := do
  word "macro"
  let _ ← name
  when (startsWithGroup .paren) (skip 1)
  inside .brace all

/-- Reads an item after its attributes. -/
def restOfItem (g : Grammar) (attributes : List Attribute) : Reader Item := do
  let inherited ← visibility
  let ts ← rest
  let second := ts.drop 1
  if startsWithFunction false ts then
    g.function false
    return .other
  if startsWithWord "extern" ts then
    if startsWithWord "crate" second then externCrate
    else
      if !inherited then refuse
      g.foreignBlock
    return .other
  if startsWithWord "use" ts then
    skip 1
    let global ← punct? "::"
    let tree ← g.useTree !global
    punct ";"
    return (tree.map Item.imports).getD .other
  if startsWithWord "static" ts then
    g.staticItem
    return .other
  if startsWithWord "const" ts then
    skip 1
    g.constant
    return .other
  if startsWithWord "unsafe" ts then
    if startsWithWord "trait" second || startsWithWord "auto" second then
      skip 1
      g.markedTrait
      return .other
    if startsWithWord "impl" second then
      g.implementation
      return .other
    if startsWithWord "extern" second then
      if !inherited then refuse
      g.foreignBlock
      return .other
    return ← g.moduleItem
  if startsWithWord "mod" ts then return ← g.moduleItem
  if startsWithWord "type" ts then
    let (n, target) ← g.synonym true false
    return (target.map (Item.synonym n)).getD .other
  if startsWithWord "struct" ts then
    skip 1
    let n ← name
    let _ ← g.parameters
    let (_, fields) ← g.structBody
    return .struct attributes n fields
  if startsWithWord "enum" ts then
    skip 1
    let n ← name
    let _ ← g.parameters
    let _ ← g.enumBody
    return .enum n
  if startsWithWord "union" ts && startsWithName second then
    skip 2
    let _ ← g.parameters
    let _ ← g.unionBody
    return .other
  if startsWithWord "trait" ts then
    g.traitDefinition
    return .other
  if startsWithWord "auto" ts && startsWithWord "trait" second then
    g.markedTrait
    return .other
  if startsWithWord "impl" ts || startsWithWord "default" ts && !startsWith "!" second then
    g.implementation
    return .other
  if startsWithWord "macro" ts then
    macroDefinition
    return .other
  if !inherited then refuse
  require startsWithPlace
  macroItem true
  return .other

/-- Reads an item with its attributes. -/
def anyItem (g : Grammar) : Reader Item := do
  let attributes ← g.outerAttributes
  g.restOfItem attributes

/-- Reads the statements of a block, up to its end. -/
def blockStatements (g : Grammar) : Reader Unit := do
  g.statementSteps g.restOfItem ((← rest).length + 1)

end Rowsmith.Source.Grammar
