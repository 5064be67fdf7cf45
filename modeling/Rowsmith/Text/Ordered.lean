/-
# Ordered lists of texts

Texts in the order of their characters, each once.
-/

namespace Rowsmith.Text

/-- Puts `s` into a list that is in order, unless it is there. -/
def insertOrdered (s : String) : List String → List String
  | [] => [s]
  | t :: ts => if s < t then s :: t :: ts else if s = t then t :: ts else t :: insertOrdered s ts

/-- The members of a list in order, each once. -/
def ordered (ss : List String) : List String :=
  ss.foldr insertOrdered []

end Rowsmith.Text
