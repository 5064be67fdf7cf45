/-
# Values of string literals

The text that a string literal of the source stands for: a raw literal stands for what is
written between its quotes, an ordinary one for its characters with the escapes resolved.
-/

namespace Rowsmith.Source.Literal

/-- The value of a hexadecimal digit. -/
def hexDigit? (c : Char) : Option Nat :=
  if '0' ≤ c ∧ c ≤ '9' then some (c.toNat - '0'.toNat)
  else if 'a' ≤ c ∧ c ≤ 'f' then some (c.toNat - 'a'.toNat + 10)
  else if 'A' ≤ c ∧ c ≤ 'F' then some (c.toNat - 'A'.toNat + 10)
  else none

/-- The character with number `n`, if there is one. -/
def charOfNat? (n : Nat) : Option Char :=
  if h : n.isValidChar then some (Char.ofNatAux n h) else none

/-- Reads what follows `\u`: up to six digits between braces, with `_` anywhere after the first.
`count` digits with the value `value` have been read. -/
def numberEscape? (count value : Nat) : List Char → Option (Char × List Char)
  | [] => none
  | c :: cs =>
    match hexDigit? c with
    | some d => if count = 6 then none else numberEscape? (count + 1) (16 * value + d) cs
    | none =>
      if count = 0 then none
      else if c = '_' then numberEscape? count value cs
      else if c = '}' then (charOfNat? value).map fun ch => (ch, cs)
      else none

/-- The character that a one-letter escape stands for. -/
def letterEscape? : Char → Option Char
  | 'n' => some '\n'
  | 'r' => some '\r'
  | 't' => some '\t'
  | '\\' => some '\\'
  | '0' => some '\x00'
  | '\'' => some '\''
  | '"' => some '"'
  | _ => none

/-- Whether `c` is skipped after a backslash at the end of a line. -/
def isLineBlank (c : Char) : Bool :=
  c == ' ' || c == '\t' || c == '\n' || c == '\r'

/-- The characters of an ordinary string literal after its opening quote, up to the closing one.
`skipping` holds after a backslash at the end of a line. A carriage return before a line feed is
dropped. -/
def ordinary? (fuel : Nat) (skipping : Bool) (cs : List Char) : Option (List Char) :=
  match fuel, cs with
  | 0, _ => none
  | _, [] => none
  | fuel + 1, c :: cs =>
    if skipping && isLineBlank c then ordinary? fuel true cs
    else
      match c, cs with
      | '"', _ => some []
      | '\r', '\n' :: cs => (ordinary? fuel false cs).map ('\n' :: ·)
      | '\\', 'x' :: a :: b :: cs => do
        let high ← hexDigit? a
        let low ← hexDigit? b
        let rest ← ordinary? fuel false cs
        return Char.ofNat (16 * high + low) :: rest
      | '\\', 'u' :: '{' :: cs => do
        let (ch, cs) ← numberEscape? 0 0 cs
        let rest ← ordinary? fuel false cs
        return ch :: rest
      | '\\', '\n' :: cs => ordinary? fuel true cs
      | '\\', '\r' :: cs => ordinary? fuel true cs
      | '\\', e :: cs => do
        let ch ← letterEscape? e
        let rest ← ordinary? fuel false cs
        return ch :: rest
      | c, cs => (ordinary? fuel false cs).map (c :: ·)

/-- The text between the quotes of a raw string literal, given what follows its `r`. -/
def raw? (cs : List Char) : Option (List Char) :=
  match cs.dropWhile (· == '#') with
  | '"' :: body => some ((body.reverse.dropWhile (· != '"')).drop 1).reverse
  | _ => none

/-- The text that the literal `text` stands for, if it is a string literal. -/
def string? (text : String) : Option String :=
  match text.toList with
  | '"' :: cs => (ordinary? (cs.length + 1) false cs).map String.ofList
  | 'r' :: cs => (raw? cs).map String.ofList
  | _ => none

/-- Reads digits of the base `base` with the value `value` before them: the value, whether there
was a digit, and what follows. Lines between digits count for nothing. -/
def digits? (base value : Nat) (any : Bool) : List Char → Option (Nat × Bool × List Char)
  | [] => some (value, any, [])
  | c :: cs =>
    if c = '_' then digits? base value any cs
    else
      match hexDigit? c with
      | some d =>
        if d < base then digits? base (base * value + d) true cs
        else if d < 10 then none
        else some (value, any, c :: cs)
      | none => some (value, any, c :: cs)

/-- Whether `cs` is an exponent after its letter, perhaps with a suffix. -/
def isExponent (cs : List Char) : Bool :=
  match cs.dropWhile (· == '_') with
  | c :: _ => c == '+' || c == '-' || ('0' ≤ c && c ≤ '9')
  | [] => false

/-- The value and the suffix of the literal `text`, if it is an integer. -/
def integer? (text : String) : Option (Nat × List Char) := do
  let (base, cs) := match text.toList with
    | '0' :: 'x' :: cs => (16, cs)
    | '0' :: 'o' :: cs => (8, cs)
    | '0' :: 'b' :: cs => (2, cs)
    | cs => (10, cs)
  let (value, any, rest) ← digits? base 0 false cs
  if !any then none
  match rest with
  | '.' :: _ => none
  | 'e' :: cs | 'E' :: cs => if base = 10 && isExponent cs then none else some (value, rest)
  | _ => some (value, rest)

end Rowsmith.Source.Literal
