/-
# Printing emitted code

Writes a file of emitted code as text. A function's head stands on one line if that has at most one
hundred bytes, and has a line for each parameter otherwise.
-/

import Rowsmith.Code.Basic
import Rowsmith.Text.Lines

namespace Rowsmith.Code

/-- What one level of nesting is indented by. -/
def indentation : String :=
  "    "

/-- Bytes that the head of a function may have on one line. -/
def maxHeadWidth : Nat :=
  100

/-- A line at a level of nesting. -/
def indented (level : Nat) (text : String) : String :=
  String.join (List.replicate level indentation) ++ text ++ "\n"

/-- What marks a public item. -/
def visibility (isPublic : Bool) : String :=
  if isPublic then "pub " else ""

/-- Writes the lines of a documentation. -/
def printDoc (doc : List String) : String :=
  String.join (doc.map fun l => if l.isEmpty then "///\n" else "/// " ++ l ++ "\n")

/-- Writes attributes. -/
def printAttributes (attributes : List String) : String :=
  String.join (attributes.map fun a => "#[" ++ a ++ "]\n")

mutual

/-- Writes a statement at a level of nesting. -/
def printStmt (level : Nat) : Stmt → String
  | .blank => "\n"
  | .line text => String.join ((Text.lines text).map (indented level))
  | .block opening body closing =>
    indented level opening ++ printStmts (level + 1) body ++
      if closing.isEmpty then "" else indented level closing

/-- Writes statements at a level of nesting. -/
def printStmts (level : Nat) : List Stmt → String
  | [] => ""
  | s :: ss => printStmt level s ++ printStmts level ss

end

/-- Writes a constant. -/
def printConstant (c : Constant) : String :=
  printDoc c.doc ++ visibility c.isPublic ++ s!"const {c.name}: {c.type} = {c.value};\n"

/-- Writes a struct. -/
def printRecord (r : Record) : String :=
  (if r.derives.isEmpty then "" else "#[derive(" ++ ", ".intercalate r.derives ++ ")]\n") ++
    visibility r.isPublic ++ s!"struct {r.name} \x7b\n" ++
    String.join (r.fields.map fun f => indented 1 s!"{f.1}: {f.2},") ++ "\x7d\n"

/-- Writes the head of a function. -/
def printHead (f : Function) : String :=
  let start := visibility f.isPublic ++ (if f.isAsync then "async " else "") ++ "fn " ++ f.name
  let finish := match f.result with
    | some type => ") -> " ++ type ++ " \x7b"
    | none => ") \x7b"
  let params := f.params.map fun p => p.1 ++ ": " ++ p.2
  let single := start ++ "(" ++ ", ".intercalate params ++ finish
  if single.utf8ByteSize ≤ maxHeadWidth then single ++ "\n"
  else start ++ "(\n" ++ String.join (params.map fun p => indented 1 (p ++ ",")) ++ finish ++ "\n"

/-- Writes a function. -/
def printFunction (f : Function) : String :=
  printDoc f.doc ++ printAttributes f.attributes ++ printHead f ++ printStmts 1 f.body ++ "\x7d\n"

/-- Writes an item. -/
def printItem : Item → String
  | .uses paths => String.join (paths.map fun p => "use " ++ p ++ ";\n")
  | .constant c => printConstant c
  | .record r => printRecord r
  | .function f => printFunction f
  | .submodule attributes isPublic name =>
    printAttributes attributes ++ visibility isPublic ++ "mod " ++ name ++ ";\n"
  | .reexport path => "pub use " ++ path ++ ";\n"

/-- Writes a file below a first line. -/
def printFile (header : String) (file : File) : String :=
  header ++ "\n" ++ String.join (file.items.map fun i => "\n" ++ printItem i)

end Rowsmith.Code
