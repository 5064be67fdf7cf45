/-
# Lines

A text in lines, as emitted code and generated files are looked at. A line ends at a line feed, and
a carriage return before it belongs to the line end.
-/

namespace Rowsmith.Text

/-- The line that `word` holds, last character first, without a carriage return at its end. -/
def endLine : (word : List Char) → List Char
  | '\r' :: word => word.reverse
  | word => word.reverse

/-- The lines of `cs`, where `word` is the line read so far, last character first. What follows the
last line feed is a line if it is not empty. -/
def linesFrom (word : List Char) : List Char → List (List Char)
  | [] => if word.isEmpty then [] else [word.reverse]
  | c :: cs => if c = '\n' then endLine word :: linesFrom [] cs else linesFrom (c :: word) cs

/-- The lines of a text. -/
def lines (s : String) : List String :=
  (linesFrom [] s.toList).map String.ofList

/-- The first line of a text, if it has one. -/
def firstLine? (s : String) : Option String :=
  (lines s).head?

/-- Whether `part` occurs in `cs`. -/
def occursIn (part : List Char) : List Char → Bool
  | [] => part.isEmpty
  | c :: cs => part.isPrefixOf (c :: cs) || occursIn part cs

end Rowsmith.Text
