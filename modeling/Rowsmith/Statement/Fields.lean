/-
# Fields

The payload of a statement: values by column name, in the order in which the names were first set.
-/

import Rowsmith.Value.Basic

namespace Rowsmith

/-- Values by column name, in order. -/
structure Fields where
  entries : List (String × Value) := []
  deriving DecidableEq

namespace Fields

/-- The payload without fields. -/
def empty : Fields where

/-- The pairs in order. -/
def toList (f : Fields) : List (String × Value) :=
  f.entries

/-- The names in order. -/
def keys (f : Fields) : List String :=
  f.entries.map Prod.fst

/-- The values in order. -/
def values (f : Fields) : List Value :=
  f.entries.map Prod.snd

/-- Number of fields. -/
def size (f : Fields) : Nat :=
  f.entries.length

/-- Whether there is no field. -/
def isEmpty (f : Fields) : Bool :=
  f.entries.isEmpty

/-- The value of `name`. -/
def get? (f : Fields) (name : String) : Option Value :=
  f.entries.lookup name

/-- Replaces the value of the first pair with the name `name`, or adds a pair at the end. -/
def assign (name : String) (v : Value) : List (String × Value) → List (String × Value)
  | [] => [(name, v)]
  | (k, old) :: rest => if k = name then (k, v) :: rest else (k, old) :: assign name v rest

/-- The payload with `name` set to `v`: in place if the name is there, else at the end. -/
def insert (f : Fields) (name : String) (v : Value) : Fields :=
  ⟨assign name v f.entries⟩

/-- The payload of pairs that are set one after the other. -/
def ofList (pairs : List (String × Value)) : Fields :=
  pairs.foldl (fun f p => f.insert p.1 p.2) empty

/-- Whether two payloads have the same names with equal values in the same order. -/
def same (f g : Fields) : Bool :=
  f.entries.length == g.entries.length &&
    (f.entries.zip g.entries).all fun p => p.1.1 == p.2.1 && p.1.2.same p.2.2

end Fields

end Rowsmith
