/-
# Column types

The type of a column in the database: one that follows from the kind of its values, or one that the
field asks for. A type that is asked for is one or more words, and a positive number in parentheses
may follow.
-/

import Rowsmith.Declaration.Primitive
import Rowsmith.Statement.Dialect

namespace Rowsmith

open Text

/-- A column type that a field asks for. -/
structure ExplicitType where
  name : String
  param : Option Nat
  deriving DecidableEq, Repr

/-- Why a text is no column type. -/
inductive OverrideError where
  | unclosed
  | textAfterParameter
  | notAnInteger (digits : String)
  | zeroParameter
  | noName
  | invalidName (word : String)
  deriving DecidableEq, Repr

/-- The wording of an error. -/
def OverrideError.message : OverrideError → String
  | unclosed => "missing closing parenthesis"
  | textAfterParameter => "unexpected text after parameter"
  | notAnInteger digits => s!"parameter `{digits}` is not a positive integer"
  | zeroParameter => "parameter must be positive"
  | noName => "missing type name"
  | invalidName word => s!"`{word}` is not a valid type name"

namespace ExplicitType

/-- The type as it is written in a statement. -/
def display (t : ExplicitType) : String :=
  match t.param with
  | some n => s!"{t.name}({n})"
  | none => t.name

/-- Whether `c` is a letter from A to Z in either case. -/
def isLetter (c : Char) : Bool :=
  'a' ≤ c && c ≤ 'z' || 'A' ≤ c && c ≤ 'Z'

/-- Whether `c` is a digit from 0 to 9. -/
def isDigit (c : Char) : Bool :=
  '0' ≤ c && c ≤ '9'

/-- Whether `word` may be part of the name of a type. -/
def isNameWord : List Char → Bool
  | [] => false
  | c :: cs => isLetter c && cs.all fun d => isLetter d || isDigit d || d == '_'

/-- The number that digits write. -/
def ofDigits (digits : List Char) : Nat :=
  digits.foldl (fun n c => 10 * n + (c.toNat - '0'.toNat)) 0

/-- The number of 32 bits that `cs` writes, perhaps with a plus before it. -/
def parameter? (cs : List Char) : Option Nat :=
  let digits := match cs with
    | '+' :: cs => cs
    | cs => cs
  if digits.isEmpty || !digits.all isDigit then none
  else
    let n := ofDigits digits
    if n < 0x100000000 then some n else none

/-- Reads the words of a name. -/
def readName (cs : List Char) : Except OverrideError String :=
  let ws := words cs
  if ws.isEmpty then .error .noName
  else
    match ws.find? fun w => !isNameWord w with
    | some w => .error (.invalidName (String.ofList w))
    | none => .ok (" ".intercalate (ws.map String.ofList))

/-- Reads the parameter that stands after an opening parenthesis. -/
def readParameter (cs : List Char) : Except OverrideError Nat :=
  match cs.dropWhile (· != ')') with
  | [] => .error .unclosed
  | _ :: after =>
    if !after.all isBlank then .error .textAfterParameter
    else
      let digits := trim (cs.takeWhile (· != ')'))
      match parameter? digits with
      | none => .error (.notAnInteger (String.ofList digits))
      | some 0 => .error .zeroParameter
      | some n => .ok n

/-- Reads a column type. -/
def parse (text : String) : Except OverrideError ExplicitType := do
  let cs := trim text.toList
  let param ← match cs.dropWhile (· != '(') with
    | [] => pure none
    | _ :: rest => some <$> readParameter rest
  return ⟨← readName (cs.takeWhile (· != '(')), param⟩

end ExplicitType

/-- The type of a column. -/
inductive ColumnType where
  | bit
  | integer
  | bigInt
  | float
  | double
  | varChar (bound : Nat)
  | dateTime
  | binary
  | explicit (type : ExplicitType)
  deriving DecidableEq, Repr

namespace ColumnType

/-- Bound of the length of a text where none is given. -/
def defaultTextBound : Nat :=
  255

/-- The type as it is written in a statement. -/
def render (dialect : Dialect) : ColumnType → String
  | bit => match dialect with
    | .mySql => "BIT"
    | .postgres => "BOOLEAN"
  | integer => "INTEGER"
  | bigInt => "BIGINT"
  | float => match dialect with
    | .mySql => "FLOAT"
    | .postgres => "REAL"
  | double => match dialect with
    | .mySql => "DOUBLE"
    | .postgres => "DOUBLE PRECISION"
  | varChar bound => s!"VARCHAR({bound})"
  | dateTime => match dialect with
    | .mySql => "DATETIME"
    | .postgres => "TIMESTAMP"
  | binary => match dialect with
    | .mySql => s!"VARCHAR({defaultTextBound})"
    | .postgres => "BYTEA"
  | explicit type => type.display

/-- Names of the types whose values are filled with blanks up to a fixed width, in lower case. -/
def blankPaddedNames : List String :=
  ["char", "character", "bpchar", "nchar", "national character"]

/-- Whether values come back filled with blanks. Only one dialect gives back the blanks. -/
def isBlankPadded (dialect : Dialect) : ColumnType → Bool
  | explicit type =>
    dialect == .postgres && blankPaddedNames.contains (type.name.map Char.toLower)
  | _ => false

/-- The column type for values of a kind, or the one that a field asks for. Texts without a type of
their own have at most `textBound` characters. -/
def ofKind (textBound : Nat) (kind : Primitive) (asked : Option String) :
    Except OverrideError ColumnType :=
  match asked with
  | some text => explicit <$> ExplicitType.parse text
  | none => .ok <| match kind with
    | .bool => bit
    | .int32 => integer
    | .int64 => bigInt
    | .float32 => float
    | .float64 => double
    | .text => varChar textBound
    | .binary => binary
    | .timestamp => dateTime

end ColumnType

end Rowsmith
