/-
# Quoted texts

A text as a string literal of the emitted code. The quote, the backslash and the named controls
have escapes of their own; a character that would not show, or that would join the one before it,
is written by its number.
-/

import Rowsmith.Text.Visible

namespace Rowsmith.Text

/-- The escape of a character by its number. -/
def numberEscape (c : Char) : List Char :=
  ['\\', 'u', '{'] ++ Nat.toDigits 16 c.toNat ++ ['}']

/-- What is written for `c` between quotes. -/
def escape (c : Char) : List Char :=
  match c with
  | '\x00' => ['\\', '0']
  | '\t' => ['\\', 't']
  | '\r' => ['\\', 'r']
  | '\n' => ['\\', 'n']
  | '\\' => ['\\', '\\']
  | '"' => ['\\', '"']
  | c => if isExtending c || !isVisible c then numberEscape c else [c]

/-- `s` as a string literal. -/
def quoted (s : String) : String :=
  String.ofList ('"' :: s.toList.flatMap escape ++ ['"'])

end Rowsmith.Text
