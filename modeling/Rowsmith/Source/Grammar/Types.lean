/-
# Paths, types and type parameters

The phrases of the type language: paths with their arguments, bounds, types, lists of type
parameters and where clauses.
-/

import Rowsmith.Source.Grammar.Basic

namespace Rowsmith.Source.Grammar

open Reader Token

/-! ## Paths -/

/-- Reads a step of a path. Inside an expression, arguments need `::` before them. -/
def segment (g : Grammar) (expression : Bool) : Reader Segment := do
  if ← ahead (startsWithOneOf ["super", "self", "crate", "try"]) then
    return ⟨← anyName, none⟩
  let n ← if ← ahead (startsWithWord "Self") then anyName else name
  let angle ← ahead fun ts =>
    !expression && startsWith "<" ts && !startsWith "<=" ts && !startsWith "<<=" ts ||
      startsWith "::" ts && startsWith "<" (ts.drop 2)
  if angle then return ⟨n, some (← g.arguments)⟩
  return ⟨n, none⟩

/-- Reads the further steps of a path, at most `steps` of them. -/
def moreSegments (g : Grammar) (expression : Bool) : (steps : Nat) → Reader (List Segment)
  | 0 => refuse
  | steps + 1 => do
    if ← ahead fun ts => startsWith "::" ts && !startsWithGroup .paren (ts.drop 2) then
      punct "::"
      let s ← g.segment expression
      return s :: (← g.moreSegments expression steps)
    return []

/-- Reads a path. -/
def path (g : Grammar) (expression : Bool) : Reader Path := do
  let global ← punct? "::"
  let first ← g.segment expression
  return ⟨global, first :: (← g.moreSegments expression ((← rest).length + 1))⟩

/-- Reads the steps after the type that a path starts at, at most `steps` of them. -/
def typedSegments (g : Grammar) (expression : Bool) : (steps : Nat) → Reader Unit
  | 0 => refuse
  | steps + 1 => do
    let _ ← g.segment expression
    if ← punct? "::" then g.typedSegments expression steps

/-- Reads a path; answers none for one that starts at a type. -/
def typedPath (g : Grammar) (expression : Bool) : Reader (Option Path) := do
  if ← punct? "<" then
    let _ ← g.type true
    if ← word? "as" then
      let _ ← g.path false
    punct ">"
    punct "::"
    g.typedSegments expression ((← rest).length + 1)
    return none
  return some (← g.path expression)

/-- Whether no step of the path has arguments. -/
def isPlain (p : Path) : Bool :=
  p.segments.all fun s => s.arguments.isNone

/-- Whether the mark of a macro call comes next, and no comparison. -/
def startsWithBang (ts : List Token) : Bool :=
  startsWith "!" ts && !startsWith "!=" ts

/-- Reads the type after an arrow, if there is one. -/
def returnType (g : Grammar) (plus : Bool) : Reader Unit := do
  if ← punct? "->" then
    let _ ← g.type plus

/-- Reads the arguments of a path in parentheses, and the type that they lead to. -/
def parenArguments (g : Grammar) : Reader Unit := do
  let _ ← inside .paren (listed (g.type true))
  g.returnType false

/-! ## Bounds -/

/-- Reads a binder of lifetimes if one comes next. -/
def binder? (g : Grammar) : Reader Bool := do
  if ← word? "for" then
    punct "<"
    let _ ← separated "," (startsWith ">") do
      let _ ← g.outerAttributes
      lifetime
    punct ">"
    return true
  return false

/-- Reads the path of a bound. Arguments in parentheses follow its last name directly. -/
def boundPath (g : Grammar) : Reader Unit :=
  writing do
    let (p, tokens) ← withTokens (g.path false)
    let bare := match p.segments.getLast? with
      | some s => (s.arguments.getD []).isEmpty
      | none => false
    let called ← ahead fun ts => startsWithGroup .paren ts ||
      startsWith "::" ts && startsWithGroup .paren (ts.drop 2)
    if bare && called then
      let _ ← punct? "::"
      let (_, arguments) ← withTokens g.parenArguments
      let isPunct : Token → Bool
        | .punct .. => true
        | _ => false
      return ((), (tokens.reverse.dropWhile isPunct).reverse ++ arguments)
    return ((), tokens)

/-- Reads a trait with what may stand before it. `const` says whether it may be conditional. -/
def trait (g : Grammar) (const : Bool) : Reader Unit := do
  let quantified ← g.binder?
  let conditional ← do
    if ← ahead (startsWithGroup .bracket) then
      inside .bracket (word "const")
      pure true
    else word? "const"
  if conditional && !const then refuse
  let relaxed ← punct? "?"
  let requantified ← if relaxed && !quantified then g.binder? else pure false
  g.boundPath
  if relaxed && (quantified || requantified) then refuse

/-- Reads a bound. `captures` says whether it may list captured parameters and `const` whether it
may be conditional. Answers whether it is a trait. -/
def bound (g : Grammar) (captures const : Bool) : Reader Bool := do
  if ← lifetime? then return false
  if ← word? "use" then
    punct "<"
    let _ ← separated "," (startsWith ">") do
      if ← ahead fun ts => startsWithName ts || startsWithWord "Self" ts then skip 1
      else lifetime
    punct ">"
    if captures then return false else refuse
  if ← ahead (startsWithGroup .paren) then inside .paren (g.trait const)
  else g.trait const
  return true

/-- Whether a bound may follow a plus, rather than end there. -/
def startsWithBound (const : Bool) (ts : List Token) : Bool :=
  startsWithAnyName ts || startsWith "::" ts || startsWith "?" ts || startsWithLifetime ts ||
    startsWithGroup .paren ts || const && startsWithGroup .bracket ts

/-- Reads a sum of bounds, one of them a trait. -/
def bounds (g : Grammar) (plus captures const : Bool) : Reader Unit := do
  let first ← g.bound captures const
  let more ← do
    if plus && (← ahead (startsWith "+")) then
      punct "+"
      chained "+" (fun ts => !startsWithBound const ts) (g.bound captures const)
    else pure []
  require fun _ => (first :: more).any id

/-- Reads bounds that follow plus signs. -/
def furtherBounds (g : Grammar) : Reader Unit := do
  let _ ← many (startsWith "+") do
    punct "+"
    g.bound false false

/-! ## Arguments in angle brackets -/

/-- A comma. -/
def comma : Token :=
  .punct ',' false

/-- Writes arguments in a row, each with its comma, and puts in the commas that are missing
between two of them. `closed` says that none is missing before the first. -/
def joined : (closed : Bool) → List (List Token × Bool) → List Token
  | _, [] => []
  | closed, (ts, hasComma) :: args =>
    (if closed then [] else [comma]) ++ ts ++ (if hasComma then [comma] else []) ++
      joined hasComma args

/-- Writes arguments with the lifetimes, for which the flag holds, before all others. `trailing`
says whether a comma follows the last. -/
def lifetimesFirst (args : List (Bool × List Token)) (trailing : Bool) : List Token :=
  let commas := List.replicate (args.length - 1) true ++ [trailing]
  let (lifetimes, others) := (args.zip commas).partition fun a => a.1.1
  joined true ((lifetimes ++ others).map fun a => (a.1.2, a.2))

/-- Whether the token read last is a comma. -/
def afterComma : Reader Bool := fun s =>
  let last := match s.read with
    | .punct c _ :: _ => c == ','
    | _ => false
  some (last, s)

/-- Whether an argument that is a value comes next, names apart. -/
def startsWithConst (ts : List Token) : Bool :=
  startsWithLiteral ts || startsWithGroup .brace ts

/-- Reads an argument that is a value: a literal, a name or a block. -/
def constArgument (g : Grammar) : Reader Unit := do
  if ← ahead startsWithLiteral then literal
  else if ← ahead startsWithName then skip 1
  else g.attributedBlock

/-- Whether the type is one name, perhaps with arguments. -/
def isOneName : TypeForm → Bool
  | .path p _ => !p.global && p.segments.length == 1
  | _ => false

/-- Reads an argument in angle brackets. Answers whether it is a lifetime. -/
def argument (g : Grammar) : Reader Bool := do
  if ← ahead fun ts => startsWithLifetime ts && !startsWith "+" (ts.drop 1) then
    lifetime
    return true
  if ← ahead startsWithConst then
    g.constArgument
    return false
  let form ← g.form true
  if isOneName form then
    if ← punct? "=" then
      if ← ahead startsWithConst then g.constArgument
      else let _ ← g.type true
    else if ← punct? ":" then
      let _ ← chained "+" (fun ts => startsWith "," ts || startsWith ">" ts) (g.bound false true)
  return false

/-- Reads arguments in angle brackets: the tokens of each. -/
def angleArguments (g : Grammar) : Reader (List (List Token)) :=
  writing do
    let (_, opening) ← withTokens do
      let _ ← punct? "::"
      punct "<"
    let (args, trailing) ← writing do
      let args ← separated "," (startsWith ">") (withTokens g.argument)
      return ((args, ← afterComma), [])
    let (_, closing) ← withTokens (punct ">")
    return (args.map Prod.snd, opening ++ lifetimesFirst args trailing ++ closing)

/-! ## Types -/

/-- Reads the binding of a foreign function: `extern` with an optional text. -/
def abi : Reader Unit := do
  word "extern"
  when startsWithString (skip 1)

/-- Reads a parameter of a function type. `receiver` says whether it may be `self`. -/
def functionTypeParameter (g : Grammar) (receiver : Bool) : Reader Unit := do
  let startsWithMutSelf := fun ts =>
    receiver && startsWithWord "mut" ts && startsWithWord "self" (ts.drop 1)
  let mutable ← ahead startsWithMutSelf
  if mutable then skip 1
  let hasColon := fun ts => startsWith ":" (ts.drop 1) && !startsWith "::" (ts.drop 1)
  let named ← ahead fun ts => (startsWithName ts || startsWithWord "_" ts) && hasColon ts
  let isSelf ← ahead fun ts =>
    !named && receiver && startsWithWord "self" ts && hasColon ts
  if named || isSelf then
    skip 1
    punct ":"
  if !isSelf && (← ahead startsWithMutSelf) then skip 2
  else if mutable && !(named || isSelf) then word "self"
  else let _ ← g.type true

/-- Reads the parameters of a function type, at most `steps` of them. -/
def functionTypeParameters (g : Grammar) (receiver : Bool) : (steps : Nat) → Reader Unit
  | 0 => refuse
  | steps + 1 => do
    unless ← ahead List.isEmpty do
      let _ ← g.outerAttributes
      let named ← ahead fun ts => (startsWithName ts || startsWithWord "_" ts) &&
        startsWith ":" (ts.drop 1) && startsWith "..." (ts.drop 2)
      if named then skip 2
      if ← punct? "..." then
        let _ ← punct? ","
      else
        g.functionTypeParameter receiver
        unless ← ahead List.isEmpty do
          punct ","
          g.functionTypeParameters false steps

/-- Reads a function type. -/
def functionType (g : Grammar) : Reader Unit := do
  let _ ← word? "unsafe"
  when (startsWithWord "extern") abi
  word "fn"
  inside .paren do g.functionTypeParameters true ((← rest).length + 1)
  g.returnType false

/-- What stands between the parentheses of a type. -/
inductive ParenContent where
  /-- Nothing, or types with a comma. -/
  | tuple
  /-- Bounds that start with a lifetime. -/
  | bounds (tokens : List Token)
  /-- A bound with a question mark. -/
  | relaxed
  | single (form : TypeForm)

/-- Reads what stands between the parentheses of a type. -/
def parenContent (g : Grammar) : Reader ParenContent := do
  if ← ahead List.isEmpty then return .tuple
  if ← ahead startsWithLifetime then
    let (_, tokens) ← withTokens (g.bounds true false false)
    return .bounds tokens
  if ← ahead (startsWith "?") then
    g.trait false
    return .relaxed
  let first ← g.form true
  if ← punct? "," then
    let _ ← listed (g.type true)
    return .tuple
  return .single first

/-- What reading a type answers, its tokens apart. -/
inductive FormKind where
  | paren (inner : TypeExpr)
  | path (path : Path)
  | bound
  | other

/-- Reads a type that starts with parentheses. -/
def parenType (g : Grammar) (plus : Bool) : Reader FormKind := do
  match ← inside .paren g.parenContent with
  | .tuple => return .other
  | .bounds tokens => return .paren (.other tokens)
  | .relaxed =>
    if ← ahead (startsWith "+") then
      g.furtherBounds
      return .other
    return .bound
  | .single form =>
    let isBound := match form with
      | .path .. | .bound _ => true
      | _ => false
    if plus && isBound && (← ahead (startsWith "+")) then
      g.furtherBounds
      return .other
    return .paren form.type

/-- Reads a type that starts with a path. `quantified` says whether a binder came before it. -/
def pathType (g : Grammar) (plus quantified : Bool) : Reader FormKind := do
  match ← g.typedPath false with
  | none => return .other
  | some p =>
    if isPlain p && (← ahead startsWithBang) then
      punct "!"
      let _ ← anyGroup
      return .other
    if plus && (← ahead (startsWith "+")) then
      punct "+"
      let _ ← chained "+" (fun ts => !startsWithBound false ts) (g.bound false false)
      return .other
    return if quantified then .bound else .path p

/-- Reads a type, up to its tokens. -/
def typeKind (g : Grammar) (plus : Bool) : Reader FormKind := do
  let quantified ← g.binder?
  if quantified then
    require fun ts => startsWithName ts ||
      startsWithOneOf ["fn", "unsafe", "extern", "super", "self", "Self", "crate"] ts
  if ← ahead (startsWithGroup .paren) then g.parenType plus
  else if ← ahead (startsWithOneOf ["fn", "unsafe", "extern"]) then
    g.functionType
    return .other
  else if ← ahead fun ts => startsWithName ts || startsWith "::" ts || startsWith "<" ts ||
      startsWithOneOf ["super", "self", "Self", "crate"] ts then
    g.pathType plus quantified
  else if ← word? "dyn" then
    let _ ← punct? "*"
    g.bounds plus false false
    return .other
  else if ← word? "impl" then
    g.bounds plus true true
    return .other
  else if ← ahead (startsWithGroup .bracket) then
    inside .bracket do
      let _ ← g.type true
      unless ← ahead List.isEmpty do
        punct ";"
        let _ ← g.expression true
    return .other
  else if ← punct? "*" then
    require (startsWithOneOf ["const", "mut"])
    skip 1
    let _ ← g.type false
    return .other
  else if ← punct? "&" then
    let _ ← lifetime?
    let _ ← word? "mut"
    let _ ← g.type false
    return .other
  else if ← punct? "!" then return .other
  else
    word "_"
    return .other

/-- Reads a type. -/
def typeForm (g : Grammar) (plus : Bool) : Reader TypeForm := do
  let (kind, tokens) ← withTokens (g.typeKind plus)
  match kind with
  | .paren inner => return .paren inner
  | .path p => return .path p tokens
  | .bound => return .bound tokens
  | .other => return .other tokens

/-! ## Type parameters -/

/-- Reads a type parameter, its comma apart. -/
def parameter (g : Grammar) : Reader Parameter := do
  let (_, attributes) ← withTokens g.outerAttributes
  if ← ahead startsWithLifetime then
    let (_, n) ← withTokens lifetime
    let stop := fun ts => ts.isEmpty || startsWith "," ts || startsWith ">" ts
    let (list, tokens) ← withTokens do
      if ← punct? ":" then chained "+" stop lifetime else return []
    return ⟨true, attributes ++ n ++ (if list.isEmpty then [] else tokens), n, false⟩
  if ← word? "const" then
    let (_, n) ← withTokens name
    let (_, tokens) ← withTokens do
      punct ":"
      let _ ← g.type true
    if ← punct? "=" then g.constArgument
    return ⟨false, attributes ++ [.name ⟨"const", false, by decide⟩] ++ n ++ tokens, n, false⟩
  if ← ahead (startsWithWord "_") then
    let (_, n) ← withTokens anyName
    return ⟨false, attributes ++ n, n, false⟩
  let (_, n) ← withTokens name
  let stop := fun ts => ts.isEmpty || startsWith "," ts || startsWith ">" ts || startsWith "=" ts
  let (list, tokens) ← withTokens do
    if ← punct? ":" then chained "+" stop (g.bound false true) else return []
  if ← punct? "=" then
    let _ ← g.type true
  return ⟨false, attributes ++ n ++ (if list.isEmpty then [] else tokens), n, false⟩

/-- Reads type parameters, if there are any. -/
def parameters (g : Grammar) : Reader (List Parameter) := do
  if ← punct? "<" then
    let ps ← separated "," (startsWith ">") g.parameter
    let trailing ← afterComma
    punct ">"
    let commas := List.replicate (ps.length - 1) true ++ [trailing]
    return ps.zipWith (fun p c => { p with comma := c }) commas
  return []

/-- Whether a where clause ends here. -/
def endsWhere (ts : List Token) : Bool :=
  ts.isEmpty || startsWithGroup .brace ts || startsWith "," ts || startsWith ";" ts ||
    startsWith ":" ts && !startsWith "::" ts || startsWith "=" ts

/-- Reads a predicate of a where clause. -/
def predicate (g : Grammar) : Reader Unit := do
  if ← ahead fun ts => startsWithLifetime ts && startsWith ":" (ts.drop 1) then
    lifetime
    punct ":"
    let _ ← chained "+" (fun ts => endsWhere ts || startsWith ":" ts) lifetime
  else
    let _ ← g.binder?
    let _ ← g.type true
    punct ":"
    let _ ← chained "+" endsWhere (g.bound false true)

/-- Reads a where clause, if there is one: its tokens, if it has a predicate. -/
def whereClause (g : Grammar) : Reader (Option (List Token)) := do
  if ← ahead (startsWithWord "where") then
    let (ps, tokens) ← withTokens do
      word "where"
      chained "," endsWhere g.predicate
    return if ps.isEmpty then none else some tokens
  return none

end Rowsmith.Source.Grammar
