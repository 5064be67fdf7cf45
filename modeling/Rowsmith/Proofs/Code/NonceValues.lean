/-
# What the expressions of emitted tests denote

Emitted tests write the values of rows as expressions in a number, and `nonceValue`
is the value that the expression of each kind denotes. An expression denotes a value
only where it has the type of its column: a column whose type is a struct around a
value takes the value in that struct.
-/

import Rowsmith.Code.RoundTrip

namespace Rowsmith

/-! ## Numbers -/

/-- The bits of the number nearest to `n` in a binary format with the given widths of
exponent and fraction. Of two that are equally near it is the even one. -/
def nearestBits (exponentWidth fractionWidth : Nat) (n : Int) : Nat :=
  let a := n.natAbs
  if a = 0 then 0
  else
    let top := a.log2
    let significand :=
      if top ≤ fractionWidth then a <<< (fractionWidth - top)
      else
        let width := top - fractionWidth
        let kept := a >>> width
        let rest := a % (1 <<< width)
        let half := 1 <<< (width - 1)
        if half < rest || (rest == half && kept % 2 == 1) then kept + 1 else kept
    let sign := if n < 0 then 1 <<< (exponentWidth + fractionWidth) else 0
    -- the significand counts its leading one, and carries into the exponent
    sign + ((top + (1 <<< (exponentWidth - 1)) - 2) <<< fractionWidth) + significand

/-- The instant that time is counted from. -/
def Instant.epoch : Instant :=
  ⟨0, 0, by decide, two_nanosPerSecond_pos⟩

/-- The kind of a value. -/
def Value.kind : Value → Primitive
  | bool _ => .bool
  | int32 _ => .int32
  | int64 _ => .int64
  | float32 _ => .float32
  | float64 _ => .float64
  | text _ => .text
  | bytes _ => .binary
  | timestamp _ => .timestamp

/-- The integer `n` as a value of the given kind, if that is a kind of integers. -/
def Value.integer? (kind : Primitive) (n : Int) : Option Value :=
  match kind with
  | .int32 => some (int32 (Int32.ofInt n))
  | .int64 => some (int64 (Int64.ofInt n))
  | _ => none

/-- The number that a value of a kind of integers is. -/
def Value.number : Value → Int
  | int32 n => n.toInt
  | int64 n => n.toInt
  | _ => 0

namespace Code

/-! ## Expressions -/

/-- What the names in an expression stand for. -/
structure Bindings where
  nonce : Int
  id : Int
  t : Instant

/-- The value of an expression in the number `nonce`. -/
def nonceExpressionValue? (nonce : Int) : String → Option Value
  | "nonce % 2 == 0" => some (.bool (nonce % 2 == 0))
  | "nonce as i32" => some (.int32 (Int32.ofInt nonce))
  | "nonce" => some (.int64 (Int64.ofInt nonce))
  | "nonce as f32" => some (.float32 (UInt32.ofNat (nearestBits 8 23 nonce)))
  | "nonce as f64" => some (.float64 (UInt64.ofNat (nearestBits 11 52 nonce)))
  | "format!(\"some_str\x7bnonce\x7d\")" => some (.text ("some_str" ++ toString nonce))
  | "format!(\"some_bytes\x7bnonce\x7d\").into_bytes()" =>
    some (.bytes ("some_bytes" ++ toString nonce).toUTF8.toList)
  | "timestamp_from_nonce(nonce)" => some (.timestamp ((Instant.of? nonce 0).getD .epoch))
  | _ => none

/-- The value of an expression where one of the given kind is expected. -/
def expressionValue? (kind : Primitive) (b : Bindings) (expression : String) : Option Value :=
  if expression = "0" then Value.integer? kind 0
  else if expression = "id" then Value.integer? kind b.id
  else
    let value :=
      if expression = "t" then some (.timestamp b.t)
      else if expression = "NaiveDateTime::default()" then some (.timestamp .epoch)
      else nonceExpressionValue? b.nonce expression
    value.filter fun v => v.kind == kind

/-- The expression inside the struct that the type of the column is, if it is one. -/
def unwrapped? (c : Column) (expression : String) : Option String :=
  match c.via with
  | .newtype path =>
    let before := path.name.toList ++ ['(']
    if before.isPrefixOf expression.toList && expression.toList.getLast? == some ')' then
      some (String.ofList (expression.toList.drop before.length).dropLast)
    else none
  | _ => some expression

/-- What an expression puts into a column. -/
def columnValue? (c : Column) (b : Bindings) (expression : String) : Option Value :=
  (unwrapped? c expression).bind (expressionValue? c.kind b)

/-- The value that the expression of a kind denotes. -/
def nonceValue (kind : Primitive) (nonce : Int) : Value :=
  match kind with
  | .bool => .bool (nonce % 2 == 0)
  | .int32 => .int32 (Int32.ofInt nonce)
  | .int64 => .int64 (Int64.ofInt nonce)
  | .float32 => .float32 (UInt32.ofNat (nearestBits 8 23 nonce))
  | .float64 => .float64 (UInt64.ofNat (nearestBits 11 52 nonce))
  | .text => .text ("some_str" ++ toString nonce)
  | .binary => .bytes ("some_bytes" ++ toString nonce).toUTF8.toList
  | .timestamp => .timestamp ((Instant.of? nonce 0).getD .epoch)

theorem nonceExpressionValue?_nonceExpression (kind : Primitive) (nonce : Int) :
    nonceExpressionValue? nonce (nonceExpression kind) = some (nonceValue kind nonce) := by
  cases kind <;> rfl

theorem kind_nonceValue (kind : Primitive) (nonce : Int) : (nonceValue kind nonce).kind = kind := by
  cases kind <;> rfl

theorem expressionValue?_nonceExpression (kind : Primitive) (b : Bindings) :
    expressionValue? kind b (nonceExpression kind) = some (nonceValue kind b.nonce) := by
  have hfree : nonceExpression kind ∉ ["0", "id", "t", "NaiveDateTime::default()"] := by
    cases kind <;> decide
  simp only [List.mem_cons, List.not_mem_nil, or_false, not_or] at hfree
  obtain ⟨hzero, hid, ht, hdefault⟩ := hfree
  rw [expressionValue?, if_neg hzero, if_neg hid, if_neg ht, if_neg hdefault,
    nonceExpressionValue?_nonceExpression]
  simp [kind_nonceValue]

theorem unwrapped?_wrapped (c : Column) (expression : String) :
    unwrapped? c (wrapped c expression) = some expression := by
  unfold unwrapped? wrapped
  cases c.via with
  | direct => rfl
  | synonym path => rfl
  | newtype path =>
      have htext : (s!"{path.name}({expression})").toList =
          (path.name.toList ++ ['(']) ++ (expression.toList ++ [')']) := by
        show (path.name ++ "(" ++ expression ++ ")").toList = _
        simp
      simp only [htext, List.drop_left, List.dropLast_concat, String.ofList_toList]
      rw [if_pos]
      rw [Bool.and_eq_true, List.isPrefixOf_iff_prefix, ← List.append_assoc, List.getLast?_concat]
      exact ⟨by rw [List.append_assoc]; exact List.prefix_append _ _, by simp⟩

/-- What stands in no struct is no value for a column that takes one in a struct. -/
theorem columnValue?_t (c : Column) (b : Bindings) :
    columnValue? c b "t" =
      match c.via with
      | .newtype _ => none
      | _ => (some (Value.timestamp b.t)).filter fun v => v.kind == c.kind := by
  unfold columnValue? unwrapped?
  cases c.via with
  | direct => rfl
  | synonym path => rfl
  | newtype path =>
      dsimp only
      rw [if_neg]
      · rfl
      · simp

end Code

end Rowsmith
