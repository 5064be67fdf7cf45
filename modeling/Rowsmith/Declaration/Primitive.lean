/-
# Primitive kinds

The kinds of value that a column can be derived from.
-/

namespace Rowsmith

/-- The kinds of value that a column can be derived from. -/
inductive Primitive where
  | bool
  | int32
  | int64
  | float32
  | float64
  | text
  | binary
  | timestamp
  deriving DecidableEq, Repr

namespace Primitive

/-- The kind that the name of a type stands for. Only these spellings are recognised. -/
def ofTypeName? : String → Option Primitive
  | "bool" => some bool
  | "i32" => some int32
  | "i64" => some int64
  | "f32" => some float32
  | "f64" => some float64
  | "String" | "std::string::String" | "alloc::string::String" => some text
  | "NaiveDateTime" | "chrono::NaiveDateTime" | "dbcrud::chrono::NaiveDateTime" => some timestamp
  | _ => none

/-- The type that emitted code uses for the kind. -/
def typeName : Primitive → String
  | bool => "bool"
  | int32 => "i32"
  | int64 => "i64"
  | float32 => "f32"
  | float64 => "f64"
  | text => "String"
  | binary => "Vec<u8>"
  | timestamp => "NaiveDateTime"

/-- Whether the values of the kind are integers. -/
def isInteger (kind : Primitive) : Bool :=
  kind == int32 || kind == int64

end Primitive

end Rowsmith
