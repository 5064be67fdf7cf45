/-
# Snake case

A name is cut into words and the words are written in lower case, joined by `_`. Words end at a
character that is neither letter nor number, before a capital that follows a lower-case letter,
and before the last capital of a run of capitals that a lower-case letter follows. A character
without case takes the case of the letter before it.
-/

import Rowsmith.Text.Blank
import Rowsmith.Text.Letter

namespace Rowsmith.Text

/-- Case of the last letter of the current word; `none` before its first letter. -/
inductive WordCase where
  | none
  | lower
  | upper
  deriving DecidableEq, Repr

/-- The case after reading `c` where it was `case` before. -/
def WordCase.next (case : WordCase) (c : Char) : WordCase :=
  if isLowercase c then .lower else if isUppercase c then .upper else case

/-- Cuts a run of letters and numbers into words: `word` is the word read so far, last character
first, and `case` the case of its last letter. -/
def cutWords : WordCase → List Char → List Char → List (List Char)
  | _, word, [] => if word.isEmpty then [] else [word.reverse]
  | _, word, [c] => [(c :: word).reverse]
  | case, word, c :: next :: rest =>
    if case.next c = .lower ∧ isUppercase next then
      (c :: word).reverse :: cutWords .none [] (next :: rest)
    else if case = .upper ∧ isUppercase c ∧ isLowercase next then
      word.reverse :: cutWords .none [c] (next :: rest)
    else cutWords (case.next c) (c :: word) (next :: rest)

/-- The words of a name. -/
def nameWords (cs : List Char) : List (List Char) :=
  (runsBetween (fun c => !isAlphanumeric c) [] cs).flatMap (cutWords .none [])

/-- A word in lower case. A capital sigma that ends the word has a form of its own. -/
def lowercaseWord : List Char → List Char
  | [] => []
  | ['Σ'] => ['ς']
  | c :: cs => lowercase c ++ lowercaseWord cs

/-- The snake-case form of a name. -/
def snakeCase (name : String) : String :=
  "_".intercalate ((nameWords name.toList).map fun word => String.ofList (lowercaseWord word))

end Rowsmith.Text
