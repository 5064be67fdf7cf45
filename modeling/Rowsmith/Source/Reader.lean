/-
# Readers of token trees

A reader consumes token trees from the front and may fail. It keeps what it has consumed, so that
the tokens of a piece can be told after reading it. Failing has no reason attached: a text that
the grammar refuses is refused as a whole.
-/

import Rowsmith.Source.Literal
import Rowsmith.Source.Token

namespace Rowsmith.Source

/-! ## What a list of tokens starts with -/

namespace Token

/-- Words that an unmarked name cannot be. -/
def keywords : List String :=
  ["_", "abstract", "as", "async", "await", "become", "box", "break", "const", "continue", "crate",
    "do", "dyn", "else", "enum", "extern", "false", "final", "fn", "for", "if", "impl", "in", "let",
    "loop", "macro", "match", "mod", "move", "mut", "override", "priv", "pub", "ref", "return",
    "Self", "self", "static", "struct", "super", "trait", "true", "try", "type", "typeof", "unsafe",
    "unsized", "use", "virtual", "where", "while", "yield"]

/-- What follows the punctuation `cs`; its characters have to be joint. -/
def afterPunct? : List Char → List Token → Option (List Token)
  | [], ts => some ts
  | [c], .punct d _ :: ts => if c = d then some ts else none
  | c :: cs, .punct d joint :: ts => if c = d && joint then afterPunct? cs ts else none
  | _, _ => none

/-- Whether the punctuation `p` comes first. -/
def startsWith (p : String) (ts : List Token) : Bool :=
  (afterPunct? p.toList ts).isSome

/-- Whether the unmarked name `w` comes first. -/
def startsWithWord (w : String) : List Token → Bool
  | .name n :: _ => !n.raw && n.text == w
  | _ => false

/-- Whether one of the unmarked names `ws` comes first. -/
def startsWithOneOf (ws : List String) (ts : List Token) : Bool :=
  ws.any fun w => startsWithWord w ts

/-- Whether `n` is no keyword. -/
def isOrdinary (n : Name) : Bool :=
  n.raw || !keywords.contains n.text

/-- Whether a name that is no keyword comes first. -/
def startsWithName : List Token → Bool
  | .name n :: _ => isOrdinary n
  | _ => false

/-- Whether a name or a keyword comes first. -/
def startsWithAnyName : List Token → Bool
  | .name _ :: _ => true
  | _ => false

/-- Whether a lifetime comes first. -/
def startsWithLifetime : List Token → Bool
  | .lifetime _ :: _ => true
  | _ => false

/-- Whether a group in the brackets `d` comes first. -/
def startsWithGroup (d : Delimiter) : List Token → Bool
  | .group e _ :: _ => d == e
  | _ => false

/-- Whether `text` is a number. -/
def isNumber (text : String) : Bool :=
  match text.toList with
  | c :: _ => '0' ≤ c && c ≤ '9'
  | [] => false

/-- Whether a literal comes first; `true`, `false` and a number after a minus are literals too. -/
def startsWithLiteral : List Token → Bool
  | .literal _ :: _ => true
  | .name n :: _ => !n.raw && (n.text == "true" || n.text == "false")
  | .punct '-' _ :: .literal text :: _ => isNumber text
  | _ => false

/-- Whether the literal `text` is the position of a field. -/
def isIndex (text : String) : Bool :=
  match Literal.integer? text with
  | some (value, suffix) => isNumber text && value < 0x100000000 && suffix.isEmpty
  | none => false

/-- Whether a string literal comes first. -/
def startsWithString : List Token → Bool
  | .literal text :: _ => (Literal.string? text).isSome
  | _ => false

/-- Whether what follows starts a name with its module: a name, or a word for a place in the
module tree. -/
def startsWithPlace (ts : List Token) : Bool :=
  startsWithName ts || startsWithOneOf ["self", "super", "crate"] ts || startsWith "::" ts

end Token

/-! ## Readers -/

/-- Where a reader stands: the tokens to come and those read, last first. -/
structure Cursor where
  rest : List Token
  read : List Token

/-- A reader of token trees. -/
abbrev Reader := StateT Cursor Option

namespace Reader

variable {α : Type}

/-- Refuses. -/
def refuse : Reader α :=
  fun _ => none

/-- The tokens to come. -/
def rest : Reader (List Token) :=
  fun s => some (s.rest, s)

/-- Whether `test` holds of the tokens to come. -/
def ahead (test : List Token → Bool) : Reader Bool :=
  fun s => some (test s.rest, s)

/-- Whether `test` holds of the tokens to come after `n` trees. -/
def aheadAfter (n : Nat) (test : List Token → Bool) : Reader Bool :=
  fun s => some (test (s.rest.drop n), s)

/-- Goes on only if `test` holds of the tokens to come. -/
def require (test : List Token → Bool) : Reader Unit :=
  fun s => if test s.rest then some ((), s) else none

/-- Reads one token tree. -/
def next : Reader Token
  | ⟨t :: ts, read⟩ => some (t, ⟨ts, t :: read⟩)
  | _ => none

/-- Reads `n` token trees. -/
def skip : Nat → Reader Unit
  | 0 => pure ()
  | n + 1 => do let _ ← next; skip n

/-- Reads everything that is left. -/
def all : Reader Unit :=
  fun s => some ((), ⟨[], s.rest.reverse ++ s.read⟩)

/-- Reads the punctuation `p`. -/
def punct (p : String) : Reader Unit := do
  require (Token.startsWith p)
  skip p.length

/-- Reads the punctuation `p` if it comes next. -/
def punct? (p : String) : Reader Bool := do
  if ← ahead (Token.startsWith p) then
    punct p
    return true
  return false

/-- Reads the word `w`. -/
def word (w : String) : Reader Unit := do
  require (Token.startsWithWord w)
  skip 1

/-- Reads the word `w` if it comes next. -/
def word? (w : String) : Reader Bool := do
  if ← ahead (Token.startsWithWord w) then
    skip 1
    return true
  return false

/-- Reads a name or a keyword. -/
def anyName : Reader Name := do
  match ← next with
  | .name n => return n
  | _ => refuse

/-- Reads a name that is no keyword. -/
def name : Reader Name := do
  require Token.startsWithName
  anyName

/-- Reads a lifetime. -/
def lifetime : Reader Unit := do
  require Token.startsWithLifetime
  skip 1

/-- Reads a lifetime if one comes next. -/
def lifetime? : Reader Bool := do
  if ← ahead Token.startsWithLifetime then
    skip 1
    return true
  return false

/-- Reads a literal. -/
def literal : Reader Unit := do
  require Token.startsWithLiteral
  if ← punct? "-" then skip 1 else skip 1

/-- Reads a string literal: its value. -/
def string : Reader String := do
  match ← next with
  | .literal text =>
    match Literal.string? text with
    | some value => return value
    | none => refuse
  | _ => refuse

/-- Reads the position of a field. -/
def index : Reader Unit := do
  match ← next with
  | .literal text => if Token.isIndex text then pure () else refuse
  | _ => refuse

/-- Reads a group in the brackets `d`, all of whose content `body` reads. -/
def inside (d : Delimiter) (body : Reader α) : Reader α
  | ⟨.group e ts :: rest, read⟩ =>
    if d = e then
      match body ⟨ts, []⟩ with
      | some (a, ⟨[], inner⟩) => some (a, ⟨rest, .group d inner.reverse :: read⟩)
      | _ => none
    else none
  | _ => none

/-- Reads a group in any brackets: the brackets. -/
def anyGroup : Reader Delimiter := do
  match ← next with
  | .group d _ => return d
  | _ => refuse

/-- Runs `r` only if `test` holds of the tokens to come. -/
def when (test : List Token → Bool) (r : Reader Unit) : Reader Unit := do
  if ← ahead test then r

/-- Runs `r`; the tokens that it read are those that `r` answers in second place. -/
def writing (r : Reader (α × List Token)) : Reader α := fun s =>
  match r ⟨s.rest, []⟩ with
  | some ((a, written), t) => some (a, ⟨t.rest, written.reverse ++ s.read⟩)
  | none => none

/-- Runs `r` and tells the tokens that it read. -/
def withTokens (r : Reader α) : Reader (α × List Token) := fun s =>
  match r ⟨s.rest, []⟩ with
  | some (a, t) => some ((a, t.read.reverse), ⟨t.rest, t.read ++ s.read⟩)
  | none => none

/-- Whether `r` succeeds here. Nothing is read. -/
def canRead (r : Reader α) : Reader Bool :=
  fun s => some ((r s).isSome, s)

/-! ## Repetition -/

/-- Reads pieces while `test` holds of the tokens to come, at most `steps` of them. -/
def whileAhead (test : List Token → Bool) (piece : Reader α) : (steps : Nat) → Reader (List α)
  | 0 => refuse
  | steps + 1 => do
    if ← ahead test then
      let a ← piece
      return a :: (← whileAhead test piece steps)
    return []

/-- Reads pieces while `test` holds of the tokens to come. Every piece has to read something. -/
def many (test : List Token → Bool) (piece : Reader α) : Reader (List α) := do
  whileAhead test piece ((← rest).length + 1)

/-- Reads pieces up to the end. -/
def toEnd (piece : Reader α) : Reader (List α) :=
  many (fun ts => !ts.isEmpty) piece

/-- Reads pieces up to where `stop` holds, with `sep` between each two of them; one more `sep` may
follow the last piece. At most `steps` pieces. -/
def separatedSteps (sep : String) (stop : List Token → Bool) (piece : Reader α) :
    (steps : Nat) → Reader (List α)
  | 0 => refuse
  | steps + 1 => do
    if ← ahead stop then return []
    let a ← piece
    if ← ahead stop then return [a]
    punct sep
    return a :: (← separatedSteps sep stop piece steps)

/-- Reads pieces up to where `stop` holds, with `sep` between each two of them and perhaps after the
last. -/
def separated (sep : String) (stop : List Token → Bool) (piece : Reader α) : Reader (List α) := do
  separatedSteps sep stop piece ((← rest).length + 1)

/-- Reads pieces up to the end, with a comma between each two of them and perhaps after the last. -/
def listed (piece : Reader α) : Reader (List α) :=
  separated "," List.isEmpty piece

/-- Reads pieces as long as `sep` follows and `stop` does not hold. At most `steps` pieces. -/
def chainedSteps (sep : String) (stop : List Token → Bool) (piece : Reader α) :
    (steps : Nat) → Reader (List α)
  | 0 => refuse
  | steps + 1 => do
    if ← ahead stop then return []
    let a ← piece
    if ← punct? sep then return a :: (← chainedSteps sep stop piece steps)
    return [a]

/-- Reads pieces as long as `sep` follows and `stop` does not hold. -/
def chained (sep : String) (stop : List Token → Bool) (piece : Reader α) : Reader (List α) := do
  chainedSteps sep stop piece ((← rest).length + 1)

/-- What a reader makes of all of `ts`. -/
def run? (r : Reader α) (ts : List Token) : Option α :=
  match r ⟨ts, []⟩ with
  | some (a, ⟨[], _⟩) => some a
  | _ => none

end Reader

end Rowsmith.Source
