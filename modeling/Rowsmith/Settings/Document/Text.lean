/-
# Texts in settings documents

A text stands between quotes, single or double, on one line, or between three quotes over several
lines. Between double quotes a backslash starts an escape; between single quotes every character
stands for itself.
-/

namespace Rowsmith.Settings.Document

/-- The single quote. -/
def singleQuote : Char :=
  '\x27'

/-- Whether `c` may stand in a line. -/
def isLineChar (c : Char) : Bool :=
  c = '\t' || 0x20 ≤ c.toNat && c ≠ '\x7f'

/-- The value of a hexadecimal digit. -/
def hexDigit? (c : Char) : Option Nat :=
  if '0' ≤ c && c ≤ '9' then some (c.toNat - '0'.toNat)
  else if 'a' ≤ c && c ≤ 'f' then some (c.toNat - 'a'.toNat + 10)
  else if 'A' ≤ c && c ≤ 'F' then some (c.toNat - 'A'.toNat + 10)
  else none

/-- The number that hexadecimal digits spell, after those that make up `n`. -/
def hexNumber? (n : Nat) : List Char → Option Nat
  | [] => some n
  | c :: cs => do hexNumber? (16 * n + (← hexDigit? c)) cs

/-- The character whose number the first `width` characters spell. -/
def numbered? (width : Nat) (cs : List Char) : Option Char := do
  let digits := cs.take width
  if digits.length < width then none
  let n ← hexNumber? 0 digits
  if n.isValidChar then some (Char.ofNat n) else none

/-- The character that an escape stands for, given what follows the backslash, and the number of
characters that belong to the escape. -/
def escape? : List Char → Option (Char × Nat)
  | 'b' :: _ => some ('\x08', 1)
  | 't' :: _ => some ('\t', 1)
  | 'n' :: _ => some ('\n', 1)
  | 'f' :: _ => some ('\x0c', 1)
  | 'r' :: _ => some ('\r', 1)
  | 'e' :: _ => some ('\x1b', 1)
  | '"' :: _ => some ('"', 1)
  | '\\' :: _ => some ('\\', 1)
  | 'x' :: cs => (numbered? 2 cs).map (·, 3)
  | 'u' :: cs => (numbered? 4 cs).map (·, 5)
  | 'U' :: cs => (numbered? 8 cs).map (·, 9)
  | _ => none

/-- Reads a text up to its closing quote, where the first `skip` characters belong to an escape. The
text stands on one line. -/
def lineBody (quote : Char) (skip : Nat) : List Char → Option (List Char × List Char)
  | [] => none
  | c :: cs =>
    match skip with
    | skip + 1 => lineBody quote skip cs
    | 0 =>
      if c = quote then some ([], cs)
      else if c = '\\' && quote = '"' then do
        let (x, width) ← escape? cs
        let (s, rest) ← lineBody quote width cs
        return (x :: s, rest)
      else if isLineChar c then do
        let (s, rest) ← lineBody quote 0 cs
        return (c :: s, rest)
      else none

/-- The number of blanks and line ends at the start of `cs`. -/
def gapWidth : List Char → Nat
  | '\r' :: '\n' :: cs => gapWidth cs + 2
  | ' ' :: cs | '\t' :: cs | '\n' :: cs => gapWidth cs + 1
  | _ => 0

/-- Whether the line ends after blanks only. -/
def endsLine : List Char → Bool
  | ' ' :: cs | '\t' :: cs => endsLine cs
  | '\n' :: _ | '\r' :: '\n' :: _ => true
  | _ => false

/-- Reads a text up to its three closing quotes, before which one or two more may stand. The text may
go over several lines. A backslash at the end of a line joins it with the next one that is not
blank. -/
def blockBody (quote : Char) (skip : Nat) : List Char → Option (List Char × List Char)
  | [] => none
  | c :: cs =>
    match skip with
    | skip + 1 => blockBody quote skip cs
    | 0 =>
      let quotes := cs.takeWhile (· = quote)
      if c = quote && 2 ≤ quotes.length then
        let more := min (quotes.length - 2) 2
        some (List.replicate more quote, cs.drop (2 + more))
      else if c = '\\' && quote = '"' then
        if endsLine cs then blockBody quote (gapWidth cs) cs
        else do
          let (x, width) ← escape? cs
          let (s, rest) ← blockBody quote width cs
          return (x :: s, rest)
      else if isLineChar c || c = '\n' || c = '\r' && cs.head? = some '\n' then do
        let (s, rest) ← blockBody quote 0 cs
        return (c :: s, rest)
      else none

/-- `cs` without a line end at its start. -/
def dropLineEnd : List Char → List Char
  | '\n' :: cs | '\r' :: '\n' :: cs => cs
  | cs => cs

/-- Reads a text on one line from its opening quote on. -/
def lineText? : List Char → Option (String × List Char)
  | c :: cs =>
    if c = '"' || c = singleQuote then (lineBody c 0 cs).map fun r => (String.ofList r.1, r.2)
    else none
  | [] => none

/-- Reads a text from its opening quotes on. -/
def text? : List Char → Option (String × List Char)
  | a :: b :: c :: cs =>
    if (a = '"' || a = singleQuote) && a = b && b = c then
      (blockBody a 0 (dropLineEnd cs)).map fun r => (String.ofList r.1, r.2)
    else lineText? (a :: b :: c :: cs)
  | cs => lineText? cs

end Rowsmith.Settings.Document
