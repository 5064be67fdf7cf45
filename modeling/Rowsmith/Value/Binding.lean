/-
# Binding values to columns

The binary form in which a value is sent to the database, for the type of the column it is bound
to. A value is bound to the types of its own kind; a checked binding moreover widens or narrows a
number to the other width, if that loses nothing.
-/

import Rowsmith.Value.Basic

namespace Rowsmith

/-- The types of the database that a value may be bound to. -/
inductive SqlType where
  | bool
  | bytea
  | int2
  | int4
  | int8
  | float4
  | float8
  | numeric
  | text
  | varchar
  | bpchar
  | name
  | unknown
  | timestamp
  | timestamptz
  | date
  /-- Any other type, in the schema that declares it. -/
  | other (schema typeName : String)
  deriving DecidableEq, Repr

namespace SqlType

/-- The name of the type in the database. The schema stands before it, unless it is one that is
searched by default. -/
def display : SqlType → String
  | bool => "bool"
  | bytea => "bytea"
  | int2 => "int2"
  | int4 => "int4"
  | int8 => "int8"
  | float4 => "float4"
  | float8 => "float8"
  | numeric => "numeric"
  | text => "text"
  | varchar => "varchar"
  | bpchar => "bpchar"
  | name => "name"
  | unknown => "unknown"
  | timestamp => "timestamp"
  | timestamptz => "timestamptz"
  | date => "date"
  | other schema typeName =>
    if schema = "public" ∨ schema = "pg_catalog" then typeName else s!"{schema}.{typeName}"

/-- Whether the type is one for label trees, or for the patterns of such trees, that an extension
adds. -/
def isLabelTree : SqlType → Bool
  | other _ typeName => ["ltree", "lquery", "ltxtquery"].contains typeName
  | _ => false

/-- Whether texts are bound to the type. -/
def isText : SqlType → Bool
  | varchar | text | bpchar | name | unknown => true
  | other schema typeName => typeName == "citext" || (other schema typeName).isLabelTree
  | _ => false

end SqlType

/-- Why a value cannot be bound to a type. -/
inductive BindError where
  /-- Values of the type named first are never bound to the second. -/
  | wrongType (valueType : String) (type : SqlType)
  /-- The number is above the range of the type. -/
  | aboveRange
  /-- The number is below the range of the type. -/
  | belowRange
  /-- The form of the value does not fit the message that carries it. -/
  | tooLarge
  deriving DecidableEq, Repr

/-- The wording of an error. -/
def BindError.message : BindError → String
  | wrongType valueType type =>
    s!"cannot convert between the Rust type `{valueType}` and the Postgres type `{type.display}`"
  | aboveRange => "number too large to fit in target type"
  | belowRange => "number too small to fit in target type"
  | tooLarge => "value too large to transmit"

/-- An action that appends bytes to a buffer and may fail. -/
abbrev Binding := ExceptT BindError (StateM (List UInt8))

/-- Appends bytes. -/
def Binding.append (bs : List UInt8) : Binding Unit :=
  modify (· ++ bs)

/-- The `width` lowest bytes of `n`, highest first. -/
def bigEndian : (width : Nat) → (n : Nat) → List UInt8
  | 0, _ => []
  | width + 1, n => bigEndian width (n / 256) ++ [UInt8.ofNat n]

/-- The number with these bytes, highest first. -/
def ofBigEndian (bs : List UInt8) : Nat :=
  bs.foldl (fun n b => 256 * n + b.toNat) 0

/-- Start of the year 2000, from which the database counts time. -/
def epoch2000 : Int :=
  946684800

/-- Whole microseconds from the start of 2000 to `t`, rounded toward it. -/
def Instant.microseconds (t : Instant) : Int :=
  ((t.seconds - epoch2000) * 1000000000 + t.nanos).tdiv 1000

/-- The 64-bit form of a 32-bit floating-point number. What is no number is made quiet. -/
def widenFloat (bits : UInt32) : UInt64 :=
  let n := bits.toNat
  let sign := (n >>> 31) <<< 63
  let exponent := (n >>> 23) % (1 <<< 8)
  let fraction := n % (1 <<< 23)
  let magnitude :=
    if exponent = 255 then
      if fraction = 0 then 2047 <<< 52
      else (2047 <<< 52) + (((1 <<< 22) ||| fraction) <<< 29)
    else if exponent = 0 then
      if fraction = 0 then 0
      else
        let top := fraction.log2
        ((top + 874) <<< 52) + ((fraction - (1 <<< top)) <<< (52 - top))
    else ((exponent + 896) <<< 52) + (fraction <<< 29)
  UInt64.ofNat (sign + magnitude)

namespace Value

/-- The name of the type of a value in the emitted code. -/
def typeName : Value → String
  | bool _ => "bool"
  | int32 _ => "i32"
  | int64 _ => "i64"
  | float32 _ => "f32"
  | float64 _ => "f64"
  | text _ => "alloc::string::String"
  | bytes _ => "alloc::vec::Vec<u8>"
  | timestamp _ => "chrono::naive::datetime::NaiveDateTime"

/-- Whether the value is bound to `type` as it is. -/
def accepts : Value → SqlType → Bool
  | bool _, type => type == .bool
  | int32 _, type => type == .int4
  | int64 _, type => type == .int8
  | float32 _, type => type == .float4
  | float64 _, type => type == .float8
  | text _, type => type.isText
  | bytes _, type => type == .bytea
  | timestamp _, type => type == .timestamp

/-- Appends the binary form of the value. -/
def write : Value → Binding Unit
  | bool b => .append [if b then 1 else 0]
  | int32 n => .append (bigEndian 4 n.toUInt32.toNat)
  | int64 n => .append (bigEndian 8 n.toUInt64.toNat)
  | float32 bits => .append (bigEndian 4 bits.toNat)
  | float64 bits => .append (bigEndian 8 bits.toNat)
  | text s => .append s.toUTF8.toList
  | bytes bs => .append bs
  | timestamp t =>
    let micros := t.microseconds
    if -0x8000000000000000 ≤ micros ∧ micros < 0x8000000000000000 then
      .append (bigEndian 8 (micros % 0x10000000000000000).toNat)
    else throw .tooLarge

/-- Binds the value to a column of the type `type` as it is. The text of a label tree follows the
number of its format. -/
def bindPlain (v : Value) (type : SqlType) : Binding Unit :=
  if v.accepts type then
    if type.isLabelTree then do Binding.append [1]; v.write else v.write
  else throw (.wrongType v.typeName type)

/-- Binds the value to a column of the type `type`. A 32-bit number widens, and a 64-bit integer
narrows if it fits. -/
def bind (v : Value) (type : SqlType) : Binding Unit :=
  match v, type with
  | int32 n, .int8 => (int64 n.toInt64).bindPlain .int8
  | int64 n, .int4 =>
    if n.toInt < -0x80000000 then throw .belowRange
    else if 0x80000000 ≤ n.toInt then throw .aboveRange
    else (int32 n.toInt32).bindPlain .int4
  | float32 bits, .float8 => (float64 (widenFloat bits)).bindPlain .float8
  | v, type => v.bindPlain type

end Value

end Rowsmith
