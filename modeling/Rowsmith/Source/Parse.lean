/-
# Reading source texts

Ties the phrases of the language together and reads whole texts: files, and single definitions.
-/

import Rowsmith.Source.Grammar.Items
import Rowsmith.Source.Scan

namespace Rowsmith.Source

/-- The phrases that nest at most `depth` deep. -/
def grammar : (depth : Nat) → Grammar
  | 0 => Grammar.empty
  | depth + 1 => {
      form := fun plus s => (grammar depth).typeForm plus s
      arguments := fun s => (grammar depth).angleArguments s
      expression := fun structs s => (grammar depth).anyExpression structs s
      unary := fun structs s => (grammar depth).operand structs s
      operators := fun structs base left s => (grammar depth).operatorsFrom structs base left s
      early := fun s => (grammar depth).earlyExpression s
      statements := fun s => (grammar depth).blockStatements s
      pattern := fun s => (grammar depth).onePattern s
      fields := fun s => (grammar depth).namedFields s
      item := fun s => (grammar depth).anyItem s
      useTree := fun root s => (grammar depth).importTree root s }

/-- A depth that no phrase of `ts` exceeds: between two tokens at most a few phrases start. -/
def depthFor (ts : List Token) : Nat :=
  8 * (Token.sizeOfList ts + 2)

/-- The items of a file that consists of `ts`. -/
def itemsOf? (ts : List Token) : Option (List Item) :=
  let g := grammar (depthFor ts)
  Reader.run? (do g.innerAttributes; Reader.toEnd g.item) ts

/-- `cs` without a first line that names an interpreter. A first line that starts an attribute is
kept. -/
def dropInterpreter (cs : List Char) : List Char :=
  match cs with
  | '#' :: '!' :: rest =>
    match Scan.skip rest.length rest with
    | '[' :: _ => cs
    | _ => rest.dropWhile (· != '\n')
  | _ => cs

/-- The items of a source file; none if the text is malformed. -/
def parseFile? (text : String) : Option (List Item) := do
  let cs := dropInterpreter (dropByteOrderMark text.toList)
  itemsOf? (← tokens? cs)

/-- The paths that `ts` lists, with a comma between each two and perhaps after the last. -/
def paths? (ts : List Token) : Option (List Path) :=
  Reader.run? (Reader.listed ((grammar (depthFor ts)).path false)) ts

/-- The definition that `text` consists of; none if it consists of none. -/
def parseDefinition? (text : String) : Option Definition := do
  let ts ← tokens? text.toList
  Reader.run? (grammar (depthFor ts)).definition ts

end Rowsmith.Source
