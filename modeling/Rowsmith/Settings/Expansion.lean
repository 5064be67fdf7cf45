/-
# Environment references

A setting may refer to variables of the environment: `$` and a name in braces stand for the value of
the variable. The text is read once from left to right, and a value is not read again.
-/

namespace Rowsmith.Settings

/-- The variables of a run. -/
abbrev Environment := List (String × String)

/-- What is wrong with a reference. -/
inductive ExpansionError where
  /-- The text ends within the name. -/
  | unterminated (name : String)
  | noName
  /-- No variable has the name. -/
  | unset (name : String)
  deriving DecidableEq, Repr

/-- The wording of an error. -/
def ExpansionError.message : ExpansionError → String
  | unterminated name => "unterminated env var reference: $\x7b" ++ name ++ "\x7d"
  | noName => "invalid env var reference: $\x7b\x7d"
  | unset name => s!"missing env var for config expansion: {name}"

/-- Replaces references, where `name` is what has been read of the name of one, last character first,
if one has started. -/
def expandChars (env : Environment) : (name : Option (List Char)) → List Char →
    Except ExpansionError (List Char)
  | none, [] => .ok []
  | none, '$' :: '{' :: cs => expandChars env (some []) cs
  | none, c :: cs => (expandChars env none cs).map (c :: ·)
  | some name, [] => .error (.unterminated (String.ofList name.reverse))
  | some name, '}' :: cs =>
    if name.isEmpty then .error .noName
    else
      let name := String.ofList name.reverse
      match env.lookup name with
      | some value => (expandChars env none cs).map (value.toList ++ ·)
      | none => .error (.unset name)
  | some name, c :: cs => expandChars env (some (c :: name)) cs

/-- A text with the values of variables in the place of the references to them. -/
def expand (env : Environment) (text : String) : Except ExpansionError String :=
  (expandChars env none text.toList).map String.ofList

/-- The names in the references of a text, where `name` is what has been read of one, last character
first, if one has started. -/
def referencesIn : (name : Option (List Char)) → List Char → List String
  | _, [] => []
  | none, '$' :: '{' :: cs => referencesIn (some []) cs
  | none, _ :: cs => referencesIn none cs
  | some name, '}' :: cs => String.ofList name.reverse :: referencesIn none cs
  | some name, c :: cs => referencesIn (some (c :: name)) cs

/-- The names in the references of a text. -/
def references (text : String) : List String :=
  referencesIn none text.toList

end Rowsmith.Settings
