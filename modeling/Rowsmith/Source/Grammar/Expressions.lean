/-
# Expressions

The phrases that compute a value. Operators bind by rank; an operand is read with its prefix
operators and with the calls, fields and indices after it.
-/

import Rowsmith.Source.Grammar.Patterns

namespace Rowsmith.Source.Grammar

open Reader Token

/-! ## Ranks of operators -/

/-- The lowest rank. -/
def lowestRank : Nat :=
  0

/-- Rank of assignments. -/
def assignRank : Nat :=
  1

/-- Rank of ranges. -/
def rangeRank : Nat :=
  2

/-- Rank of comparisons. -/
def compareRank : Nat :=
  6

/-- Rank of conversions. -/
def castRank : Nat :=
  13

/-- The operators between two operands with their ranks; an operator comes before those that it
starts with. -/
def binaryOperators : List (String × Nat) :=
  [("+=", 1), ("-=", 1), ("*=", 1), ("/=", 1), ("%=", 1), ("^=", 1), ("&=", 1), ("|=", 1),
    ("<<=", 1), (">>=", 1), ("&&", 4), ("||", 3), ("<<", 10), (">>", 10), ("==", 6), ("<=", 6),
    ("!=", 6), (">=", 6), ("+", 11), ("-", 11), ("*", 12), ("/", 12), ("%", 12), ("^", 8), ("&", 9),
    ("|", 7), ("<", 6), (">", 6)]

/-- The operator that comes next, if one does. -/
def binaryOperator? (ts : List Token) : Option (String × Nat) :=
  binaryOperators.find? fun op => startsWith op.1 ts

/-- Whether a plain assignment comes next. -/
def startsWithAssignment (ts : List Token) : Bool :=
  startsWith "=" ts && !startsWith "=>" ts

/-- Rank of the operator that comes next; the lowest if none does. -/
def rankAhead (ts : List Token) : Nat :=
  match binaryOperator? ts with
  | some (_, rank) => rank
  | none =>
    if startsWithAssignment ts then assignRank
    else if startsWith ".." ts then rangeRank
    else if startsWithWord "as" ts then castRank
    else lowestRank

/-! ## Operators -/

/-- Reads operators of a higher rank than `rank` after a right side, at most `steps` of them. -/
def tighter (g : Grammar) (structs : Bool) (rank : Nat) (right : Shape) : (steps : Nat) → Reader Shape
  | 0 => refuse
  | steps + 1 => do
    let next ← Reader.rest
    let higher := rankAhead next
    if higher > rank || higher == rank && rank == assignRank then
      let right ← g.operators structs higher right
      if (← Reader.rest).length = next.length then return right
      g.tighter structs rank right steps
    else return right

/-- Reads the right side of an operator of rank `rank`. -/
def rightSide (g : Grammar) (structs : Bool) (rank : Nat) : Reader Shape := do
  let right ← g.unary structs
  g.tighter structs rank right ((← rest).length + 1)

/-- Whether an open range ends here. -/
def endsOpenRange (structs : Bool) (ts : List Token) : Bool :=
  ts.isEmpty || startsWith "," ts || startsWith ";" ts || startsWith "." ts && !startsWith ".." ts ||
    !structs && startsWithGroup .brace ts || startsWithWord "as" ts ||
    ["?", "=>", "=", "+", "/", "%", "^", ">", "<=", "!=", "-=", "*=", "&=", "|=", "<<="].any
      fun p => startsWith p ts

/-- Reads a range after its lower bound. -/
def rangeOperator (g : Grammar) (structs : Bool) : Reader Unit := do
  require fun ts => !startsWith "..." ts
  let closed ← ahead (startsWith "..=")
  punct ".."
  if closed then skip 1
  if closed || !(← ahead (endsOpenRange structs)) then
    let _ ← g.rightSide structs rangeRank

/-- Whether nothing comes next that a conversion cannot have after it. -/
def mayFollowCast (ts : List Token) : Bool :=
  !(startsWith "." ts && !startsWith ".." ts || startsWith "?" ts || startsWithGroup .bracket ts ||
    startsWithGroup .paren ts)

/-- Reads operators of rank `base` and above after an expression, at most `steps` of them. -/
def operatorSteps (g : Grammar) (structs : Bool) (base : Nat) (left : Shape) :
    (steps : Nat) → Reader Shape
  | 0 => refuse
  | steps + 1 => do
    let ts ← rest
    if left = .range then return left
    match binaryOperator? ts with
    | some (op, rank) =>
      if rank < base then return left
      if rank = compareRank && left = .comparison then refuse
      punct op
      let _ ← g.rightSide structs rank
      g.operatorSteps structs base (if rank = compareRank then .comparison else .other) steps
    | none =>
      if assignRank ≥ base && startsWithAssignment ts then
        punct "="
        let _ ← g.rightSide structs assignRank
        g.operatorSteps structs base .other steps
      else if rangeRank ≥ base && startsWith ".." ts then
        g.rangeOperator structs
        g.operatorSteps structs base .range steps
      else if castRank ≥ base && startsWithWord "as" ts then
        skip 1
        let _ ← g.type false
        require mayFollowCast
        g.operatorSteps structs base .other steps
      else return left

/-- Reads operators of rank `base` and above after an expression. -/
def operatorsFrom (g : Grammar) (structs : Bool) (base : Nat) (left : Shape) : Reader Shape := do
  g.operatorSteps structs base left ((← rest).length + 1)

/-- Reads an expression. -/
def anyExpression (g : Grammar) (structs : Bool) : Reader Shape := do
  let left ← g.unary structs
  g.operatorsFrom structs lowestRank left

/-! ## Calls, fields and indices -/

/-- Reads arguments in parentheses. -/
def callArguments (g : Grammar) : Reader Unit := do
  let _ ← inside .paren (listed (g.expression true))

/-- Whether `text` is a number with a point or an exponent. -/
def isFraction (text : String) : Bool :=
  isNumber text && (Literal.integer? text).isNone

/-- Cuts `cs` at its points. -/
def cutAtPoints (word : List Char) : List Char → List (List Char)
  | [] => [word.reverse]
  | c :: cs => if c = '.' then word.reverse :: cutAtPoints [] cs else cutAtPoints (c :: word) cs

/-- Reads what follows the point of a field access or a method call. -/
def member (g : Grammar) : Reader Unit := do
  match ← rest with
  | .literal text :: _ =>
    if isFraction text then
      skip 1
      let cs := text.toList
      let trailing := cs.getLast? == some '.'
      let parts := cutAtPoints [] (if trailing then cs.dropLast else cs)
      unless parts.all fun p => isIndex (String.ofList p) do refuse
      if trailing then plainMember
    else plainMember
  | _ => plainMember
where
  /-- Reads a member that is no pair of positions. -/
  plainMember : Reader Unit := do
    if ← word? "await" then return
    if ← ahead startsWithName then
      skip 1
      let turbofish ← ahead (startsWith "::")
      if turbofish then
        require fun ts => startsWith "<" (ts.drop 2)
        let _ ← g.arguments
      if turbofish || (← ahead (startsWithGroup .paren)) then g.callArguments
    else index

/-- Reads the calls, fields and indices after an operand, at most `steps` of them. -/
def trailerSteps (g : Grammar) (operand : Shape) : (steps : Nat) → Reader Shape
  | 0 => refuse
  | steps + 1 => do
    let ts ← rest
    if startsWithGroup .paren ts then
      g.callArguments
      g.trailerSteps .other steps
    else if startsWith "." ts && !startsWith ".." ts && operand ≠ .range then
      punct "."
      g.member
      g.trailerSteps .other steps
    else if startsWithGroup .bracket ts then
      let _ ← inside .bracket (g.expression true)
      g.trailerSteps .other steps
    else if startsWith "?" ts && operand ≠ .range then
      punct "?"
      g.trailerSteps .other steps
    else return operand

/-- Reads the calls, fields and indices after an operand. -/
def trailers (g : Grammar) (operand : Shape) : Reader Shape := do
  g.trailerSteps operand ((← rest).length + 1)

/-! ## Control -/

/-- Reads an expression before which no brace may start a struct value. -/
def condition (g : Grammar) : Reader Unit := do
  let _ ← g.expression false

/-- Reads a conditional with its alternatives, at most `steps` of them. -/
def conditional (g : Grammar) : (steps : Nat) → Reader Unit
  | 0 => refuse
  | steps + 1 => do
    word "if"
    g.condition
    g.block
    if ← word? "else" then
      if ← ahead (startsWithWord "if") then g.conditional steps else g.block

/-- Reads an arm of a `match`. -/
def arm (g : Grammar) : Reader Unit := do
  let _ ← g.outerAttributes
  let _ ← g.alternatives
  if ← word? "if" then
    let _ ← g.expression true
  punct "=>"
  let shape ← g.early
  unless ← punct? "," do
    if shape ≠ .block then require List.isEmpty

/-- Reads a loop over a sequence after its first word. -/
def sequenceLoop (g : Grammar) : Reader Unit := do
  let _ ← g.alternatives
  word "in"
  g.condition
  g.attributedBlock

/-- Whether `for` starts the binder of a closure rather than a loop. -/
def startsWithClosureBinder (ts : List Token) : Bool :=
  startsWithWord "for" ts && startsWith "<" (ts.drop 1) &&
    (startsWithLifetime (ts.drop 2) || startsWith ">" (ts.drop 2))

/-- Reads an expression that ends at its brace; answers whether there is one. -/
def blockExpression? (g : Grammar) : Reader Bool := do
  let ts ← rest
  let brace := startsWithGroup .brace (ts.drop 1)
  if startsWithWord "if" ts then g.conditional (ts.length + 1)
  else if startsWithWord "while" ts then
    skip 1
    g.condition
    g.attributedBlock
  else if startsWithWord "for" ts && !startsWithClosureBinder ts then
    skip 1
    g.sequenceLoop
  else if startsWithWord "loop" ts then
    skip 1
    g.attributedBlock
  else if startsWithWord "match" ts then
    skip 1
    g.condition
    inside .brace do
      g.innerAttributes
      let _ ← toEnd g.arm
  else if startsWithWord "try" ts && brace then
    skip 1
    g.block
  else if startsWithWord "unsafe" ts || startsWithWord "const" ts && brace then
    skip 1
    g.attributedBlock
  else if startsWithGroup .brace ts then g.attributedBlock
  else return false
  return true

/-- Reads a loop or block with a label. -/
def labeled (g : Grammar) : Reader Unit := do
  lifetime
  punct ":"
  require fun ts => startsWithOneOf ["while", "for", "loop"] ts || startsWithGroup .brace ts
  if ← word? "for" then g.sequenceLoop
  else
    let _ ← g.blockExpression?

/-- Reads an expression in a place where one that ends at its brace ends the phrase, unless a point
or a question mark follows. -/
def earlyExpression (g : Grammar) : Reader Shape := do
  let _ ← g.outerAttributes
  let left ← do
    if ← g.blockExpression? then pure Shape.block
    else if ← ahead startsWithLifetime then
      g.labeled
      pure Shape.block
    else g.unary true
  if left ≠ .block then g.operatorsFrom true lowestRank left
  else if ← ahead fun ts => startsWith "." ts && !startsWith ".." ts || startsWith "?" ts then
    let left ← g.trailers left
    g.operatorsFrom true lowestRank left
  else return .block

/-! ## Operands -/

/-- Reads the parameter of a closure. -/
def closureParameter (g : Grammar) : Reader Unit := do
  let _ ← g.outerAttributes
  let _ ← g.pattern
  if ← punct? ":" then
    let _ ← g.type true

/-- Reads a closure. -/
def closure (g : Grammar) (structs : Bool) : Reader Unit := do
  let _ ← g.binder?
  let _ ← word? "const"
  let _ ← word? "static"
  let _ ← word? "async"
  let _ ← word? "move"
  punct "|"
  let _ ← separated "," (startsWith "|") g.closureParameter
  punct "|"
  if ← punct? "->" then
    let _ ← g.type true
    g.block
  else
    let _ ← g.expression structs

/-- Whether a closure comes next. -/
def startsWithClosure (ts : List Token) : Bool :=
  let second := ts.drop 1
  startsWith "|" ts || startsWithOneOf ["move", "static"] ts || startsWithClosureBinder ts ||
    startsWithWord "const" ts && !startsWithGroup .brace second ||
    startsWithWord "async" ts && (startsWith "|" second || startsWithWord "move" second)

/-- Reads the fields of a struct value, at most `steps` of them. -/
def valueFields (g : Grammar) : (steps : Nat) → Reader Unit
  | 0 => refuse
  | steps + 1 => do
    unless ← ahead List.isEmpty do
      if ← punct? ".." then
        unless ← ahead List.isEmpty do
          let _ ← g.expression true
      else
        let _ ← g.outerAttributes
        let named ← ahead startsWithName
        if named then skip 1 else index
        if !named || (← ahead (startsWith ":")) then
          punct ":"
          let _ ← g.expression true
        unless ← ahead List.isEmpty do
          punct ","
          g.valueFields steps

/-- Reads a path, a macro call or a struct value. -/
def pathExpression (g : Grammar) (structs : Bool) : Reader Shape := do
  let p ← g.typedPath true
  if (p.map isPlain).getD false && (← ahead startsWithBang) then
    punct "!"
    return if (← anyGroup) = .brace then .braced else .other
  if structs && (← ahead (startsWithGroup .brace)) then
    inside .brace do g.valueFields ((← rest).length + 1)
  return .other

/-- Reads an array, given by its elements or by one of them and a length. -/
def array (g : Grammar) : Reader Unit :=
  inside .bracket do
    unless ← ahead List.isEmpty do
      let _ ← g.expression true
      if ← punct? ";" then
        let _ ← g.expression true
      else unless ← ahead List.isEmpty do
        punct ","
        let _ ← listed (g.expression true)

/-- Whether an expression may start here. -/
def startsWithExpression (ts : List Token) : Bool :=
  startsWithAnyName ts || startsWithGroup .paren ts || startsWithGroup .bracket ts ||
    startsWithGroup .brace ts || startsWithLiteral ts || startsWith "!" ts && !startsWith "!=" ts ||
    startsWith "-" ts && !startsWith "-=" ts && !startsWith "->" ts ||
    startsWith "*" ts && !startsWith "*=" ts || startsWith "|" ts && !startsWith "|=" ts ||
    startsWith "&" ts && !startsWith "&=" ts || startsWith ".." ts ||
    startsWith "<" ts && !startsWith "<=" ts && !startsWith "<<=" ts || startsWith "::" ts ||
    startsWithLifetime ts || startsWith "#" ts

/-- Reads the value of a `return` or `yield`, if there is one. -/
def optionalValue (g : Grammar) : Reader Unit := do
  if ← ahead startsWithExpression then
    let _ ← g.expression true

/-- Reads what follows `break`. -/
def breakTarget (g : Grammar) (structs : Bool) : Reader Unit := do
  if ← ahead fun ts => startsWithLifetime ts && startsWith ":" (ts.drop 1) then refuse
  let _ ← lifetime?
  if ← ahead fun ts => startsWithExpression ts && (structs || !startsWithGroup .brace ts) then
    let _ ← g.expression true

/-- Reads what follows the word `let` of a condition. -/
def letCondition (g : Grammar) (structs : Bool) : Reader Unit := do
  let _ ← g.alternatives
  punct "="
  let left ← g.unary structs
  let _ ← g.operatorsFrom structs compareRank left

/-- Whether an asynchronous block comes next. -/
def startsWithAsyncBlock (ts : List Token) : Bool :=
  startsWithWord "async" ts && (startsWithGroup .brace (ts.drop 1) ||
    startsWithWord "move" (ts.drop 1) && startsWithGroup .brace (ts.drop 2))

/-- Whether a path comes next. -/
def startsWithPathExpression (ts : List Token) : Bool :=
  startsWithName ts || startsWith "::" ts || startsWith "<" ts ||
    startsWithOneOf ["self", "Self", "super", "crate"] ts ||
    startsWithWord "try" ts && (startsWith "!" (ts.drop 1) || startsWith "::" (ts.drop 1))

/-- Reads an operand without what may stand before or after it. -/
def atom (g : Grammar) (structs : Bool) : Reader Shape := do
  let ts ← rest
  if startsWithLiteral ts then literal
  else if startsWithAsyncBlock ts then
    skip 1
    let _ ← word? "move"
    g.block
  else if startsWithWord "try" ts && startsWithGroup .brace (ts.drop 1) then
    let _ ← g.blockExpression?
    return .block
  else if startsWithClosure ts then g.closure structs
  else if startsWithWord "builtin" ts && startsWith "#" (ts.drop 1) then
    skip 2
    let _ ← name
    inside .paren all
  else if startsWithPathExpression ts then return ← g.pathExpression structs
  else if startsWithGroup .paren ts then g.callArguments
  else if startsWithWord "break" ts then
    skip 1
    g.breakTarget structs
  else if startsWithWord "continue" ts then
    skip 1
    let _ ← lifetime?
  else if startsWithOneOf ["return", "yield"] ts then
    skip 1
    g.optionalValue
  else if startsWithWord "become" ts then
    skip 1
    let _ ← g.expression true
  else if startsWithGroup .bracket ts then g.array
  else if startsWithWord "let" ts then
    skip 1
    g.letCondition structs
  else if startsWith ".." ts then
    g.rangeOperator structs
    return .range
  else if startsWithWord "_" ts then skip 1
  else if startsWithLifetime ts then
    g.labeled
    return .block
  else if ← g.blockExpression? then return .block
  else refuse
  return .other

/-- Reads an operand with the operators before it and the calls, fields and indices after it. -/
def operand (g : Grammar) (structs : Bool) : Reader Shape := do
  let _ ← g.outerAttributes
  if ← punct? "&" then
    let raw ← ahead fun ts => startsWithWord "raw" ts && startsWithOneOf ["mut", "const"] (ts.drop 1)
    if raw then skip 2
    else
      let _ ← word? "mut"
    let _ ← g.unary structs
    return .other
  if ← ahead fun ts => startsWith "*" ts || startsWith "!" ts || startsWith "-" ts then
    skip 1
    let _ ← g.unary structs
    return .other
  g.trailers (← g.atom structs)

end Rowsmith.Source.Grammar
