/-
# Blanks

The white space that settings, dialect names and column types are trimmed of and split at: the
Unicode property White_Space.
-/

namespace Rowsmith.Text

/-- Whether `c` has the property White_Space. -/
def isBlank (c : Char) : Bool :=
  let n := c.toNat
  (0x9 ≤ n && n ≤ 0xD) || n == 0x20 || n == 0x85 || n == 0xA0 || n == 0x1680 ||
    (0x2000 ≤ n && n ≤ 0x200A) || n == 0x2028 || n == 0x2029 || n == 0x202F || n == 0x205F ||
    n == 0x3000

/-- `cs` without the blanks at its end. -/
def trimEnd (cs : List Char) : List Char :=
  (cs.reverse.dropWhile isBlank).reverse

/-- `cs` without the blanks at its two ends. -/
def trim (cs : List Char) : List Char :=
  trimEnd (cs.dropWhile isBlank)

/-- `s` without the blanks at its two ends. -/
def trimmed (s : String) : String :=
  String.ofList (trim s.toList)

/-- Whether `s` has no character that is not a blank. -/
def isBlankText (s : String) : Bool :=
  s.toList.all isBlank

/-- The runs of characters of `cs` at which `split` does not hold, where `word` is the run read so
far, last character first. Empty runs are left out. -/
def runsBetween (split : Char → Bool) : List Char → List Char → List (List Char)
  | word, [] => if word.isEmpty then [] else [word.reverse]
  | word, c :: cs =>
    if split c then
      if word.isEmpty then runsBetween split [] cs else word.reverse :: runsBetween split [] cs
    else runsBetween split (c :: word) cs

/-- The words of `cs`, that is its runs of characters that are no blank. -/
def words (cs : List Char) : List (List Char) :=
  runsBetween isBlank [] cs

end Rowsmith.Text
