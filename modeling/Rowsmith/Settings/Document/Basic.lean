/-
# Settings documents

The content of a settings file: keys with their values, some of which are tables with keys of their
own. A table says how it came about, because that decides what may be added to it later on: a table
is opened by one header at most, a table that dotted keys made takes more of these but no header, and
a table written in braces takes nothing.
-/

namespace Rowsmith.Settings

/-- How a table came about. -/
inductive Origin where
  /-- Opened by its own header. -/
  | header
  /-- On the way to a table that a header opened. -/
  | implied
  /-- On the way to a value of a dotted key. -/
  | dotted
  /-- Written in braces. -/
  | braces
  deriving DecidableEq, Repr

/-- A value of a document. -/
inductive Node where
  | text (s : String)
  | integer (n : Int)
  | truth (b : Bool)
  /-- A list. To an open one, headers add tables. -/
  | list (isOpen : Bool) (items : List Node)
  | table (origin : Origin) (members : List (String × Node))
  deriving Inhabited, Repr

/-- Keys with their values. -/
abbrev Members := List (String × Node)

/-- The whole of a document. -/
abbrev Document := Members

namespace Members

/-- The members with the value `v` for the key `k`, which has one. -/
def replace (m : Members) (k : String) (v : Node) : Members :=
  m.map fun e => if e.1 = k then (k, v) else e

/-- The members with the value `v` for the key `k`, which has none if the value was not there. -/
def store (m : Members) (k : String) (v : Node) : Members :=
  if (m.lookup k).isSome then m.replace k v else m ++ [(k, v)]

/-- The members with a value at a dotted key. The table that the value goes to is the one at hand or
one that dotted keys made. -/
def setDotted (v : Node) : List String → Members → Option Members
  | [], _ => none
  | [k], m => if (m.lookup k).isSome then none else some (m ++ [(k, v)])
  | k :: ks, m =>
    match m.lookup k with
    | none => do return m.store k (.table .dotted (← setDotted v ks []))
    | some (.table .dotted inner) => do return m.store k (.table .dotted (← setDotted v ks inner))
    | some (.table .implied inner) =>
      if ks.length < 2 then none
      else do return m.store k (.table .implied (← setDotted v ks inner))
    | some _ => none

/-- Changes the value at a path as headers follow it: tables that are missing are made, and of the
tables of an open list the last one is meant. -/
def alter (change : Option Node → Option Node) : List String → Members → Option Members
  | [], _ => none
  | [k], m => do return m.store k (← change (m.lookup k))
  | k :: ks, m =>
    match m.lookup k with
    | none => do return m.store k (.table .implied (← alter change ks []))
    | some (.table .braces _) => none
    | some (.table origin inner) => do return m.store k (.table origin (← alter change ks inner))
    | some (.list true items) =>
      match items.getLast? with
      | some (.table origin inner) => do
        return m.store k (.list true (items.dropLast ++ [.table origin (← alter change ks inner)]))
      | _ => none
    | some _ => none

/-- Opens the table at a path. -/
def openTable : List String → Members → Option Members :=
  alter fun
    | none => some (.table .header [])
    | some (.table .implied inner) => some (.table .header inner)
    | some _ => none

/-- Adds a table to the open list at a path. -/
def addRow : List String → Members → Option Members :=
  alter fun
    | none => some (.list true [.table .header []])
    | some (.list true items) => some (.list true (items ++ [.table .header []]))
    | some _ => none

/-- The members with a value at a dotted key of the table at a path, which has been opened before. -/
def assign (path key : List String) (v : Node) (m : Members) : Option Members :=
  if path.isEmpty then setDotted v key m else
    alter (fun
      | some (.table origin inner) => do return .table origin (← setDotted v key inner)
      | some (.list true items) =>
        match items.getLast? with
        | some (.table origin inner) => do
          return .list true (items.dropLast ++ [.table origin (← setDotted v key inner)])
        | _ => none
      | _ => none) path m

end Members

end Rowsmith.Settings
