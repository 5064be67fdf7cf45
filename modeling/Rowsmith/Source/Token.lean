/-
# Tokens of a source text

A Rust source text as a list of token trees: names, punctuation characters, lifetimes, literals
and delimited groups. White space and comments are no tokens.
-/

import Rowsmith.Text.NameCharacter

namespace Rowsmith.Source

/-- The three kinds of brackets that enclose a group. -/
inductive Delimiter where
  | paren
  | bracket
  | brace
  deriving DecidableEq, Repr

namespace Delimiter

/-- The opening bracket. -/
def opening : Delimiter → Char
  | paren => '('
  | bracket => '['
  | brace => '{'

/-- The closing bracket. -/
def closing : Delimiter → Char
  | paren => ')'
  | bracket => ']'
  | brace => '}'

/-- The kind of bracket that `c` opens. -/
def ofOpening? (c : Char) : Option Delimiter :=
  [paren, bracket, brace].find? fun d => d.opening == c

/-- The kind of bracket that `c` closes. -/
def ofClosing? (c : Char) : Option Delimiter :=
  [paren, bracket, brace].find? fun d => d.closing == c

end Delimiter

/-- A name of the source. A raw name is written with the mark `r#`, which makes an ordinary name
of a keyword; the mark is no part of `text`. -/
structure Name where
  text : String
  raw : Bool := false
  isWord : Text.isWord text.toList = true
  deriving DecidableEq, Repr

/-- The name with its mark. -/
def Name.written (n : Name) : String :=
  if n.raw then "r#" ++ n.text else n.text

/-- A token tree. A punctuation character is `joint` when another one follows it directly. -/
inductive Token where
  | name (name : Name)
  | punct (char : Char) (joint : Bool)
  | lifetime (name : Name)
  | literal (text : String)
  | group (delimiter : Delimiter) (body : List Token)
  deriving Repr

namespace Token

mutual

/-- The characters of a token tree, with nothing between the tokens. -/
def chars : Token → List Char
  | name n => n.written.toList
  | punct c _ => [c]
  | lifetime n => '\'' :: n.written.toList
  | literal text => text.toList
  | group d body => d.opening :: charsOfList body ++ [d.closing]

/-- The characters of a list of token trees, with nothing between the tokens. -/
def charsOfList : List Token → List Char
  | [] => []
  | t :: ts => chars t ++ charsOfList ts

end

mutual

/-- Number of tokens of a tree, those inside groups included. -/
def size : Token → Nat
  | group _ body => sizeOfList body + 2
  | _ => 1

/-- Number of tokens of a list of trees, those inside groups included. -/
def sizeOfList : List Token → Nat
  | [] => 0
  | t :: ts => size t + sizeOfList ts

end

/-- The text of a list of tokens without any plain blank, not even one inside a literal. -/
def compact (ts : List Token) : String :=
  String.ofList ((charsOfList ts).filter fun c => c ≠ ' ')

/-- The unmarked name that a token is. -/
def word? : Token → Option String
  | name n => if n.raw then none else some n.text
  | _ => none

end Token

end Rowsmith.Source
