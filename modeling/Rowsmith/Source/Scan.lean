/-
# From characters to tokens

Cuts a source text into token trees. Comments count as white space, except those that document
what follows or encloses them: such a comment stands for the attribute `doc` with its text.

Every scanner takes the characters that are left and returns those after the piece it read, or
`none` when no such piece starts there. The scanners of long pieces take a bound on the number of
steps, which callers set to the number of characters.
-/

import Rowsmith.Source.Literal
import Rowsmith.Source.Token
import Rowsmith.Text.Blank
import Rowsmith.Text.NameCharacter
import Rowsmith.Text.Quoted

namespace Rowsmith.Source.Scan

open Rowsmith.Text

/-- What a scanner leaves. -/
abbrev Rest := Option (List Char)

/-! ## White space and comments -/

/-- Whether `c` separates tokens: a blank or one of the two direction marks. -/
def isSpace (c : Char) : Bool :=
  isBlank c || c.toNat == 0x200E || c.toNat == 0x200F

/-- Cuts `cs` after its first line; the line end stays with the rest. -/
def line : List Char → List Char × List Char
  | [] => ([], [])
  | '\n' :: cs => ([], '\n' :: cs)
  | '\r' :: '\n' :: cs => ([], '\n' :: cs)
  | c :: cs => let (l, r) := line cs; (c :: l, r)

/-- Cuts `cs` after the block comment that it is inside of at depth `depth`; comments nest. -/
def block : Nat → List Char → Option (List Char × List Char)
  | _, [] => none
  | depth, '/' :: '*' :: cs => do
    let (body, rest) ← block (depth + 1) cs
    return ('/' :: '*' :: body, rest)
  | depth, '*' :: '/' :: cs =>
    if depth ≤ 1 then some (['*', '/'], cs)
    else do
      let (body, rest) ← block (depth - 1) cs
      return ('*' :: '/' :: body, rest)
  | depth, c :: cs => do
    let (body, rest) ← block depth cs
    return (c :: body, rest)

/-- Skips white space and comments that document nothing. -/
def skip : Nat → List Char → List Char
  | 0, cs => cs
  | fuel + 1, cs =>
    match cs with
    | '/' :: '/' :: '/' :: '/' :: rest => skip fuel (line rest).2
    | '/' :: '/' :: '/' :: _ => cs
    | '/' :: '/' :: '!' :: _ => cs
    | '/' :: '/' :: rest => skip fuel (line rest).2
    | '/' :: '*' :: '*' :: '/' :: rest => skip fuel rest
    | '/' :: '*' :: '*' :: '*' :: _ | '/' :: '*' :: _ =>
      if isDocumenting cs then cs
      else
        match block 1 (cs.drop 2) with
        | some (_, rest) => skip fuel rest
        | none => cs
    | c :: rest => if isSpace c then skip fuel rest else cs
    | [] => []
where
  /-- Whether the block comment that `cs` starts with documents something. -/
  isDocumenting : List Char → Bool
    | '/' :: '*' :: '*' :: '*' :: _ => false
    | '/' :: '*' :: '*' :: _ => true
    | '/' :: '*' :: '!' :: _ => true
    | _ => false

/-- Whether no carriage return of `cs` stands without a line feed. -/
def noLoneReturn : List Char → Bool
  | [] => true
  | '\r' :: '\n' :: cs => noLoneReturn cs
  | '\r' :: _ => false
  | _ :: cs => noLoneReturn cs

/-- The comment text between the opening of three characters and the closing of two. -/
def blockText (body : List Char) : List Char :=
  (body.drop 1).dropLast.dropLast

/-- Reads a documenting comment: its text, whether it documents what encloses it, and the rest. -/
def documentation? (cs : List Char) : Option (List Char × Bool × List Char) := do
  let (text, inner, rest) ← match cs with
    | '/' :: '/' :: '!' :: cs => let (l, r) := line cs; some (l, true, r)
    | '/' :: '*' :: '!' :: cs => (block 1 ('!' :: cs)).map fun (b, r) => (blockText b, true, r)
    | '/' :: '/' :: '/' :: '/' :: _ => none
    | '/' :: '/' :: '/' :: cs => let (l, r) := line cs; some (l, false, r)
    | '/' :: '*' :: '*' :: '*' :: _ => none
    | '/' :: '*' :: '*' :: cs => (block 1 ('*' :: cs)).map fun (b, r) => (blockText b, false, r)
    | _ => none
  if noLoneReturn text then some (text, inner, rest) else none

/-- The tokens that a documenting comment stands for. -/
def documentationTokens (text : List Char) (inner : Bool) : List Token :=
  let body : List Token :=
    [.name ⟨"doc", false, by decide⟩, .punct '=' false, .literal (quoted (String.ofList text))]
  .punct '#' false :: (if inner then [.punct '!' false] else []) ++ [.group .bracket body]

/-! ## Names -/

/-- Reads a name without mark. -/
def plainName? : List Char → Option (Name × List Char)
  | c :: cs =>
    if h : isNameStart c then
      let isWord : isWord (String.ofList (c :: cs.takeWhile isNameContinue)).toList = true := by
        simp [isWord, h]
      some (⟨_, false, isWord⟩, cs.dropWhile isNameContinue)
    else none
  | [] => none

/-- Reads a name. The names that stand for a place in the module tree, and `_`, have no raw
form. -/
def anyName? (cs : List Char) : Option (Name × List Char) :=
  match cs with
  | 'r' :: '#' :: cs => do
    let (n, rest) ← plainName? cs
    if ["_", "super", "self", "Self", "crate"].contains n.text then none
    else some (⟨n.text, true, n.isWord⟩, rest)
  | cs => plainName? cs

/-- The openings of literals that are no name, although letters start them. -/
def literalOpenings : List String :=
  ["r\"", "r#\"", "r##", "b\"", "b'", "br\"", "br#", "c\"", "cr\"", "cr#"]

/-- Reads a name where no literal starts. -/
def name? (cs : List Char) : Option (Name × List Char) :=
  if literalOpenings.any fun o => o.toList.isPrefixOf cs then none else anyName? cs

/-! ## Literals -/

/-- Skips the name that may follow a literal directly. -/
def suffix (cs : List Char) : List Char :=
  match plainName? cs with
  | some (_, rest) => rest
  | none => cs

/-- Reads two hexadecimal digits with a value that `allowed` admits. -/
def twoDigits? (allowed : Nat → Bool) : List Char → Rest
  | a :: b :: cs => do
    let high ← Literal.hexDigit? a
    let low ← Literal.hexDigit? b
    if allowed (16 * high + low) then some cs else none
  | _ => none

/-- What a kind of text literal admits between its quotes. -/
structure TextRules where
  /-- Characters that may stand for themselves. -/
  plain : Char → Bool
  /-- Values of the escape `\x`. -/
  byteEscape : Nat → Bool
  /-- Values of the escape `\u`; none where the literal has no such escape. -/
  numberEscape : Char → Bool
  /-- Letters of the other escapes. -/
  letterEscape : Char → Bool

/-- Any text. -/
def stringRules : TextRules where
  plain _ := true
  byteEscape n := n < 0x80
  numberEscape _ := true
  letterEscape c := (Literal.letterEscape? c).isSome

/-- Bytes: no character above U+007F stands for itself. -/
def byteRules : TextRules where
  plain c := c.toNat < 0x80
  byteEscape _ := true
  numberEscape _ := false
  letterEscape c := (Literal.letterEscape? c).isSome

/-- Texts without the character zero. -/
def zeroFreeRules : TextRules where
  plain c := c.toNat ≠ 0
  byteEscape n := n ≠ 0
  numberEscape c := c.toNat ≠ 0
  letterEscape c := c ≠ '0' && (Literal.letterEscape? c).isSome

/-- Reads one escape after its backslash, line ends apart. -/
def escape? (rules : TextRules) : List Char → Rest
  | 'x' :: cs => twoDigits? rules.byteEscape cs
  | 'u' :: '{' :: cs => do
    let (ch, rest) ← Literal.numberEscape? 0 0 cs
    if rules.numberEscape ch then some rest else none
  | c :: cs => if c ≠ 'u' && rules.letterEscape c then some cs else none
  | [] => none

/-- Skips the blanks after a backslash at the end of a line; the next piece has to be there. -/
def continuation? : List Char → Rest
  | [] => none
  | '\r' :: '\n' :: cs => continuation? cs
  | '\r' :: _ => none
  | c :: cs => if Literal.isLineBlank c then continuation? cs else some (c :: cs)

/-- Reads the rest of an ordinary text literal up to its closing quote and a suffix. -/
def ordinary? (rules : TextRules) : Nat → List Char → Rest
  | 0, _ => none
  | fuel + 1, cs =>
    match cs with
    | [] => none
    | '"' :: cs => some (suffix cs)
    | '\r' :: '\n' :: cs => ordinary? rules fuel cs
    | '\r' :: _ => none
    | '\\' :: '\n' :: cs => do ordinary? rules fuel (← continuation? cs)
    | '\\' :: '\r' :: cs => do ordinary? rules fuel (← continuation? ('\r' :: cs))
    | '\\' :: cs => do ordinary? rules fuel (← escape? rules cs)
    | c :: cs => if rules.plain c then ordinary? rules fuel cs else none

/-- Reads the rest of a raw text literal that `hashes` marks close. -/
def rawBody? (rules : TextRules) (hashes : Nat) : List Char → Rest
  | [] => none
  | '"' :: cs =>
    if (cs.take hashes).length = hashes && (cs.take hashes).all (· == '#') then
      some (suffix (cs.drop hashes))
    else rawBody? rules hashes cs
  | '\r' :: '\n' :: cs => rawBody? rules hashes cs
  | '\r' :: _ => none
  | c :: cs => if rules.plain c then rawBody? rules hashes cs else none

/-- Reads a raw text literal after its letters. -/
def raw? (rules : TextRules) (cs : List Char) : Rest :=
  let hashes := (cs.takeWhile (· == '#')).length
  match cs.drop hashes with
  | '"' :: cs => if hashes ≤ 255 then rawBody? rules hashes cs else none
  | _ => none

/-- Reads a character or byte literal after its opening quote. -/
def character? (rules : TextRules) : List Char → Rest
  | '\\' :: cs => do closing? (← escape? rules cs)
  | _ :: cs => closing? cs
  | [] => none
where
  /-- Reads the closing quote and a suffix. -/
  closing? : List Char → Rest
    | '\'' :: cs => some (suffix cs)
    | _ => none

/-- Reads a text, byte or character literal. -/
def textLiteral? (cs : List Char) : Rest :=
  let steps := cs.length + 1
  match cs with
  | '"' :: cs => ordinary? stringRules steps cs
  | 'r' :: cs => raw? stringRules cs
  | 'b' :: '"' :: cs => ordinary? byteRules steps cs
  | 'b' :: 'r' :: cs => raw? byteRules cs
  | 'c' :: '"' :: cs => ordinary? zeroFreeRules steps cs
  | 'c' :: 'r' :: cs => raw? zeroFreeRules cs
  | 'b' :: '\'' :: cs => character? byteRules cs
  | '\'' :: cs => character? stringRules cs
  | _ => none

/-- Whether `c` is a decimal digit. -/
def isDigit (c : Char) : Bool :=
  '0' ≤ c && c ≤ '9'

/-- Whether `c` may stand among the digits of a number. -/
def isDigitOrLine (c : Char) : Bool :=
  isDigit c || c == '_'

/-- Ends a number: an optional suffix, and then no character of a name. -/
def numberEnd? (cs : List Char) : Rest :=
  let rest := suffix cs
  match rest with
  | c :: _ => if isNameContinue c then none else some rest
  | [] => some rest

/-- Reads the exponent after its letter; `none` where no digit is in it. -/
def exponent? (cs : List Char) : Rest :=
  let lines := cs.dropWhile (· == '_')
  let signed := match lines with
    | '+' :: cs | '-' :: cs => cs
    | cs => cs
  let digits := signed.takeWhile isDigitOrLine
  if digits.any isDigit then some (signed.drop digits.length) else none

/-- Reads the digits of a number with a point or an exponent. -/
def fractionDigits? (cs : List Char) : Rest :=
  let afterInt := cs.dropWhile isDigitOrLine
  match afterInt with
  | '.' :: cs =>
    let pointEnds := match cs with
      | c :: _ => c == '.' || isNameStart c
      | [] => false
    if pointEnds then none
    else
      let afterFraction := cs.dropWhile isDigitOrLine
      match afterFraction with
      | 'e' :: cs | 'E' :: cs => some ((exponent? cs).getD afterFraction)
      | _ => some afterFraction
  | 'e' :: cs | 'E' :: cs => exponent? cs
  | _ => none

/-- Reads the digits of an integer in the base that its first characters name. -/
def integerDigits? (cs : List Char) : Rest :=
  let (base, cs) := match cs with
    | '0' :: 'x' :: cs => (16, cs)
    | '0' :: 'o' :: cs => (8, cs)
    | '0' :: 'b' :: cs => (2, cs)
    | cs => (10, cs)
  go base true cs
where
  /-- Reads digits below `base`; `empty` holds until there was one. -/
  go (base : Nat) (empty : Bool) : List Char → Rest
    | [] => if empty then none else some []
    | c :: cs =>
      if c = '_' then if empty && base = 10 then none else go base empty cs
      else
        match Literal.hexDigit? c with
        | some d =>
          if d < base then go base false cs
          else if isDigit c || empty then none
          else some (c :: cs)
        | none => if empty then none else some (c :: cs)

/-- Reads a number. -/
def number? (cs : List Char) : Rest :=
  match cs with
  | c :: _ =>
    if isDigit c then ((fractionDigits? cs).bind numberEnd?).orElse fun _ =>
      (integerDigits? cs).bind numberEnd?
    else none
  | [] => none

/-- The literal by which an expression with an error is written. -/
def errorLiteral : String :=
  "(/*ERROR*/)"

/-- Reads a literal: its text and the rest. -/
def literal? (cs : List Char) : Option (String × List Char) := do
  let rest ← (textLiteral? cs).orElse fun _ => number? cs
  return (String.ofList (cs.take (cs.length - rest.length)), rest)

/-! ## Punctuation -/

/-- Whether `cs` starts with a punctuation character that starts no comment. -/
def punct? (cs : List Char) : Option (Char × List Char) :=
  match cs with
  | '/' :: '/' :: _ => none
  | '/' :: '*' :: _ => none
  | c :: cs => if "~!@#$%^&*-=+|;:,<.>/?'".toList.contains c then some (c, cs) else none
  | [] => none

/-- Reads a lifetime after its quote. -/
def lifetime? (cs : List Char) : Option (Token × List Char) := do
  let (n, rest) ← anyName? cs
  match rest with
  | '\'' :: _ => none
  | '#' :: _ => if n.raw then some (.lifetime n, rest) else none
  | _ => some (.lifetime n, rest)

/-- Reads a token that is no group. -/
def leaf? (cs : List Char) : Option (Token × List Char) :=
  match literal? cs with
  | some (text, rest) => some (.literal text, rest)
  | none =>
    match punct? cs with
    | some ('\'', rest) => lifetime? rest
    | some (c, rest) => some (.punct c (punct? rest).isSome, rest)
    | none =>
      match name? cs with
      | some (n, rest) => some (.name n, rest)
      | none =>
        if errorLiteral.toList.isPrefixOf cs then
          some (.literal errorLiteral, cs.drop errorLiteral.length)
        else none

/-! ## Trees -/

/-- A group that is still open: its kind and the tokens before it, last first. -/
abbrev Frame := Delimiter × List Token

/-- Reads token trees up to the end. `opened` holds the groups that are open, innermost first, and
`done` the tokens read inside the innermost one, last first. -/
def trees? : Nat → List Frame → List Token → List Char → Option (List Token)
  | 0, _, _, _ => none
  | fuel + 1, opened, done, cs =>
    let cs := skip cs.length cs
    match documentation? cs with
    | some (text, inner, rest) =>
      trees? fuel opened ((documentationTokens text inner).reverse ++ done) rest
    | none =>
      match cs with
      | [] => if opened.isEmpty then some done.reverse else none
      | c :: rest =>
        match if errorLiteral.toList.isPrefixOf cs then none else Delimiter.ofOpening? c with
        | some d => trees? fuel ((d, done) :: opened) [] rest
        | none =>
          match Delimiter.ofClosing? c, opened with
          | some d, (e, before) :: outer =>
            if d = e then trees? fuel outer (.group d done.reverse :: before) rest else none
          | some _, [] => none
          | none, _ =>
            match leaf? cs with
            | some (t, rest) => trees? fuel opened (t :: done) rest
            | none => none

end Scan

/-- The mark of byte order that may start a text. -/
def byteOrderMark : Char :=
  Char.ofNat 0xFEFF

/-- `cs` without a mark of byte order at its start. -/
def dropByteOrderMark : List Char → List Char
  | c :: cs => if c = byteOrderMark then cs else c :: cs
  | [] => []

/-- The token trees of a text. -/
def tokens? (cs : List Char) : Option (List Token) :=
  let cs := dropByteOrderMark cs
  Scan.trees? (cs.length + 1) [] [] cs

end Rowsmith.Source
