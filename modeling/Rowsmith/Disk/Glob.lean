/-
# Patterns of paths

A pattern is a path whose names may leave characters open: `?` stands for any character, `*` for any
run of characters, `[…]` for a character out of a class or, after `!`, outside of it, and `**` as a
whole name for any row of directories. A pattern is read as a whole first and then name by name, and
the paths that match it are listed by following those names over a disk.
-/

import Rowsmith.Disk.Basic

namespace Rowsmith.Disk

/-- What is wrong with a pattern. -/
inductive PatternFault where
  /-- More than two stars in a row. -/
  | stars
  /-- Two stars beside other characters. -/
  | depth
  /-- A class that is empty or not closed. -/
  | range
  deriving DecidableEq, Repr

/-- Why a text is no pattern, and the character at which it fails. -/
structure PatternError where
  position : Nat
  fault : PatternFault
  deriving DecidableEq, Repr

/-- The wording of a fault. -/
def PatternFault.message : PatternFault → String
  | stars => "wildcards are either regular `*` or recursive `**`"
  | depth => "recursive wildcards must form a single path component"
  | range => "invalid range pattern"

/-- The wording of an error. -/
def PatternError.message (e : PatternError) : String :=
  s!"Pattern syntax error near position {e.position}: {e.fault.message}"

/-- A piece of a pattern. -/
inductive Piece where
  | exactly (c : Char)
  | anyOne
  | anyRun
  /-- Any row of directories. -/
  | anyDepth
  /-- A character between the two of one of the pairs. -/
  | oneOf (spans : List (Char × Char))
  /-- A character outside of all pairs. -/
  | noneOf (spans : List (Char × Char))
  deriving DecidableEq, Repr

namespace Piece

/-- The pairs of a class. Two characters with a dash between them are a pair; any other character is
one with itself. -/
def spans : List Char → List (Char × Char)
  | a :: '-' :: b :: cs => (a, b) :: spans cs
  | c :: cs => (c, c) :: spans cs
  | [] => []

/-- The characters before the first closing bracket, if there is one. -/
def untilClosed? : List Char → Option (List Char)
  | [] => none
  | ']' :: _ => some []
  | c :: cs => (untilClosed? cs).map (c :: ·)

/-- The class that starts after an opening bracket, and the number of characters up to its end. A
class has at least one character, whatever that is. -/
def class? : List Char → Option (Piece × Nat)
  | '!' :: c :: cs => (untilClosed? cs).map fun more => (noneOf (spans (c :: more)), more.length + 3)
  | '!' :: [] => none
  | c :: cs => (untilClosed? cs).map fun more => (oneOf (spans (c :: more)), more.length + 2)
  | [] => none

/-- Whether `c` lies in one of the spans. -/
def within (spans : List (Char × Char)) (c : Char) : Bool :=
  spans.any fun s => s.1 ≤ c && c ≤ s.2

/-- Whether the piece, as one that takes a single character, takes `c`. -/
def takes (piece : Piece) (c : Char) : Bool :=
  match piece with
  | exactly x => x == c
  | anyOne => true
  | oneOf spans => within spans c
  | noneOf spans => !within spans c
  | anyRun | anyDepth => false

/-- Reads the pieces of a pattern from the character at `position` on, where `before` is the one
before it and the first `skip` characters belong to the piece that was read last. -/
def ofChars (skip position : Nat) (before : Option Char) : List Char → Except PatternError (List Piece)
  | [] => .ok []
  | c :: cs =>
    match skip with
    | skip + 1 => ofChars skip (position + 1) (some c) cs
    | 0 =>
      match c, cs with
      | '?', _ => (ofChars 0 (position + 1) (some c) cs).map (anyOne :: ·)
      | '*', '*' :: '*' :: _ => .error ⟨position + 2, .stars⟩
      | '*', '*' :: rest =>
        if before.any (· != '/') then .error ⟨position - 1, .depth⟩
        else if rest.head?.any (· != '/') then .error ⟨position + 2, .depth⟩
        else
          (ofChars (if rest.isEmpty then 1 else 2) (position + 1) (some c) cs).map (anyDepth :: ·)
      | '*', _ => (ofChars 0 (position + 1) (some c) cs).map (anyRun :: ·)
      | '[', _ =>
        match class? cs with
        | some (piece, width) => (ofChars width (position + 1) (some c) cs).map (piece :: ·)
        | none => .error ⟨position, .range⟩
      | c, _ => (ofChars 0 (position + 1) (some c) cs).map (exactly c :: ·)

/-- Reads the pieces of a pattern. -/
def ofText (pattern : String) : Except PatternError (List Piece) :=
  ofChars 0 0 none pattern.toList

/-- `cs` and all that is left of it when characters are taken away from its start. -/
def endings : List Char → List (List Char)
  | [] => [[]]
  | c :: cs => (c :: cs) :: endings cs

/-- Whether the pieces together match `cs`. -/
def matchAll : List Piece → List Char → Bool
  | [], cs => cs.isEmpty
  | piece :: pieces, cs =>
    match piece with
    | anyRun | anyDepth => (endings cs).any (matchAll pieces)
    | piece =>
      match cs with
      | [] => false
      | c :: cs => piece.takes c && matchAll pieces cs

/-- The text that pieces spell, if they leave nothing open. -/
def spelling? : List Piece → Option (List Char)
  | [] => some []
  | exactly c :: pieces => (spelling? pieces).map (c :: ·)
  | _ => none

end Piece

/-- The pattern of one name of a path. -/
inductive NamePattern where
  /-- A name that leaves nothing open. -/
  | plain (name : String)
  /-- Any row of directories. -/
  | anyDepth
  /-- A name with open characters. -/
  | loose (pieces : List Piece)
  deriving DecidableEq, Repr

namespace NamePattern

/-- The pattern of a name that pieces make up. -/
def ofPieces (pieces : List Piece) : NamePattern :=
  match Piece.spelling? pieces with
  | some cs => plain (String.ofList cs)
  | none => if pieces = [.anyDepth] then anyDepth else .loose pieces

/-- Whether a name matches the pattern. -/
def takes (pattern : NamePattern) (name : String) : Bool :=
  match pattern with
  | plain n => n == name
  | anyDepth => true
  | .loose pieces => Piece.matchAll pieces name.toList

/-- The steps `.` and `..` that a pattern takes where a name is sought. It has to spell the point. -/
def steps (pattern : NamePattern) : List String :=
  match pattern with
  | .loose (.exactly '.' :: _) => [".", ".."].filter pattern.takes
  | _ => []

end NamePattern

/-- The names of a pattern. -/
def patternParts (pattern : String) : List String :=
  let names := Path.parts pattern
  let names := if Path.isAbsolute pattern then names.drop 1 else names
  if names.getLast? = some "" then names.dropLast else names

/-- Reads a pattern name by name, after it as a whole. -/
def patternOf (pattern : String) : Except PatternError (List NamePattern) := do
  let _ ← Piece.ofText pattern
  (patternParts pattern).mapM fun part => (Piece.ofText part).map NamePattern.ofPieces

/-- `p` continued by a name. What stands in the working directory is known by its name alone. -/
def continued (p name : String) : String :=
  if Path.same p "." then name else Path.join p name

/-- The paths below `p` that match the patterns, where an entry below `p` is known by the names that
lead to it. -/
def expand (d : Disk) : List NamePattern → String → List String
  | [], p => [p]
  | .plain name :: patterns, p =>
    let q := continued p name
    let found := if name = "." || name = ".." then d.isDirectory p else d.isThere q
    if found then d.expand patterns q else []
  | .loose pieces :: patterns, p =>
    let pattern := NamePattern.loose pieces
    ((d.children p).filter pattern.takes).flatMap (fun name => d.expand patterns (continued p name)) ++
      if d.isDirectory p then
        pattern.steps.flatMap fun name => d.expand patterns (Path.join p name)
      else []
  | [.anyDepth], p =>
    ((d.below p).filter fun e => e.2 = .directory).map fun e => e.1.foldl continued p
  | .anyDepth :: .anyDepth :: patterns, p => d.expand (.anyDepth :: patterns) p
  | .anyDepth :: pattern :: patterns, p =>
    ((d.below p).filter fun e => e.1.getLast?.any pattern.takes).flatMap fun e =>
      d.expand patterns (e.1.foldl continued p)

/-- The paths on a disk that match a pattern. -/
def glob (d : Disk) (pattern : String) : Except PatternError (List String) := do
  let patterns ← patternOf pattern
  return d.expand patterns (if Path.isAbsolute pattern then "/" else ".")

end Rowsmith.Disk
