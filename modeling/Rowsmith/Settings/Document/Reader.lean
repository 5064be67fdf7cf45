/-
# Reading settings documents

A document is a text in the format TOML, that is a row of lines: values for keys, and headers that
say to which table the keys after them belong. What no setting takes, that is numbers with a
fraction, dates and times, is not read.
-/

import Rowsmith.Settings.Document.Basic
import Rowsmith.Settings.Document.Text

namespace Rowsmith.Settings.Document

/-- Reads something from the start of a text. -/
abbrev Reader := StateT (List Char) Option

/-- Goes over `c`, if the text starts with it. -/
def accept (c : Char) : Reader Bool := fun
  | x :: cs => if x = c then some (true, cs) else some (false, x :: cs)
  | [] => some (false, [])

/-- Goes over `c`, with which the text has to start. -/
def expect (c : Char) : Reader Unit := do
  if !(← accept c) then failure

/-- Whether `c` is a space or a tab. -/
def isSpace (c : Char) : Bool :=
  c = ' ' || c = '\t'

/-- Goes over spaces. -/
def spaces : Reader Unit := fun cs =>
  some ((), cs.dropWhile isSpace)

/-- What is left after spaces, line ends and comments; `inComment` says whether a comment has
started. -/
def afterGap (inComment : Bool) : List Char → Option (List Char)
  | [] => some []
  | '\n' :: cs | '\r' :: '\n' :: cs => afterGap false cs
  | c :: cs =>
    if inComment then if isLineChar c then afterGap true cs else none
    else if isSpace c then afterGap false cs
    else if c = '#' then afterGap true cs
    else some (c :: cs)

/-- Goes over spaces, line ends and comments. -/
def gap : Reader Unit := fun cs =>
  (afterGap false cs).map ((), ·)

/-- What is left after the end of the line, before which only spaces and a comment stand. -/
def afterLine (inComment : Bool) : List Char → Option (List Char)
  | [] => some []
  | '\n' :: cs | '\r' :: '\n' :: cs => some cs
  | c :: cs =>
    if inComment then if isLineChar c then afterLine true cs else none
    else if isSpace c then afterLine false cs
    else if c = '#' then afterLine true cs
    else none

/-- Goes over the end of the line. -/
def lineEnd : Reader Unit := fun cs =>
  (afterLine false cs).map ((), ·)

/-- Whether `c` may stand in a key without quotes. -/
def isBare (c : Char) : Bool :=
  c.isAlphanum || c = '_' || c = '-'

/-- Reads a name of a key. -/
def name : Reader String := fun cs =>
  match cs.takeWhile isBare with
  | [] => lineText? cs
  | word => some (String.ofList word, cs.dropWhile isBare)

/-- Reads a key and the spaces after it: names with a point between each two. The fuel bounds their
number. -/
def key : (fuel : Nat) → Reader (List String)
  | 0 => failure
  | fuel + 1 => do
    let n ← name
    spaces
    if ← accept '.' then
      spaces
      return n :: (← key fuel)
    return [n]

/-- The number that digits spell in a base. A low line may stand between two digits. -/
def digits? (base : Nat) (cs : List Char) : Option Nat :=
  go 0 false cs
where
  /-- Goes on after the digits that spell `n`; `digit` says whether a digit came last. -/
  go (n : Nat) (digit : Bool) : List Char → Option Nat
    | [] => if digit then some n else none
    | '_' :: cs => if digit then go n false cs else none
    | c :: cs =>
      match hexDigit? c with
      | some d => if d < base then go (base * n + d) true cs else none
      | none => none

/-- The integer that a word spells. Only a decimal number has a sign, and none starts with a zero
that could be left out. -/
def integer? : List Char → Option Int
  | '0' :: 'x' :: cs => (digits? 16 cs).map Int.ofNat
  | '0' :: 'o' :: cs => (digits? 8 cs).map Int.ofNat
  | '0' :: 'b' :: cs => (digits? 2 cs).map Int.ofNat
  | '+' :: cs => (decimal? cs).map Int.ofNat
  | '-' :: cs => (decimal? cs).map fun n => -Int.ofNat n
  | cs => (decimal? cs).map Int.ofNat
where
  /-- The number that a word spells in decimal digits. -/
  decimal? : List Char → Option Nat
    | '0' :: _ :: _ => none
    | cs => digits? 10 cs

/-- The value that a word without quotes stands for. -/
def word? (cs : List Char) : Option Node :=
  if cs = "true".toList then some (.truth true)
  else if cs = "false".toList then some (.truth false)
  else (integer? cs).map .integer

/-- Reads a word without quotes. -/
def word : Reader Node := fun cs =>
  let isWordChar (c : Char) : Bool := isBare c || c = '+'
  (word? (cs.takeWhile isWordChar)).map (·, cs.dropWhile isWordChar)

mutual

/-- Reads a value. The fuel bounds the depth and the length of lists and tables. -/
def value : (fuel : Nat) → Reader Node
  | 0 => failure
  | fuel + 1 => do
    if ← accept '[' then
      return .list false (← items fuel)
    if ← accept '{' then
      return .table .braces (← members fuel [])
    match (← get).head? with
    | some c =>
      if c = '"' || c = singleQuote then
        return .text (← text?)
      word
    | none => failure

/-- Reads the items of a list up to its end. -/
def items : (fuel : Nat) → Reader (List Node)
  | 0 => failure
  | fuel + 1 => do
    gap
    if ← accept ']' then
      return []
    let v ← value fuel
    gap
    if ← accept ',' then
      return v :: (← items fuel)
    expect ']'
    return [v]

/-- Reads the members of a table in braces up to its end, after those of `m`. -/
def members : (fuel : Nat) → Members → Reader Members
  | 0, _ => failure
  | fuel + 1, m => do
    gap
    if ← accept '}' then
      return m
    let m ← member fuel m
    gap
    if ← accept ',' then
      return ← members fuel m
    expect '}'
    return m

/-- Reads a key and its value into a table in braces. -/
def member : (fuel : Nat) → Members → Reader Members
  | 0, _ => failure
  | fuel + 1, m => do
    let k ← key fuel
    expect '='
    spaces
    let v ← value fuel
    m.setDotted v k

end

/-- Reads a line that starts with a bracket, which is a header, and gives the path of the table that
it opens. -/
def header (fuel : Nat) (m : Members) : Reader (List String × Members) := do
  expect '['
  let isRow ← accept '['
  spaces
  let path ← key fuel
  expect ']'
  if isRow then
    expect ']'
    return (path, ← m.addRow path)
  return (path, ← m.openTable path)

/-- Reads lines, where the keys belong to the table at `path`. The fuel bounds their number. -/
def linesInto : (fuel : Nat) → (path : List String) → Members → Reader Members
  | 0, _, _ => failure
  | fuel + 1, path, m => do
    gap
    match (← get).head? with
    | none => return m
    | some '[' =>
      let (path, m) ← header fuel m
      lineEnd
      linesInto fuel path m
    | some _ =>
      let k ← key fuel
      expect '='
      spaces
      let v ← value fuel
      lineEnd
      linesInto fuel path (← m.assign path k v)

/-- The characters of a document without the mark of its encoding. -/
def withoutMark : List Char → List Char
  | '\ufeff' :: cs => cs
  | cs => cs

/-- Reads a document. -/
def parse? (text : String) : Option Document :=
  let cs := withoutMark text.toList
  ((linesInto (3 * cs.length + 3) [] []).run cs).map Prod.fst

end Rowsmith.Settings.Document
