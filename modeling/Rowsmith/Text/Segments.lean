/-
# Texts in segments

A module path as text is a row of names with `::` between each two.
-/

namespace Rowsmith.Text

/-- Cuts `cs` at every `::`, where `word` is the segment read so far, last character first. -/
def cutSegments (word : List Char) : List Char → List (List Char)
  | [] => [word.reverse]
  | ':' :: ':' :: cs => word.reverse :: cutSegments [] cs
  | c :: cs => cutSegments (c :: word) cs

/-- The segments of a module path. -/
def segments (path : String) : List String :=
  (cutSegments [] path.toList).map String.ofList

/-- The module path with the given segments. -/
def joinSegments (names : List String) : String :=
  "::".intercalate names

end Rowsmith.Text
