/-
# Binding across widths

A binding either appends the bytes of a value to the buffer or fails and leaves the
buffer alone; nothing is written in parts. A value is bound as it is to the types of its
own kind. The checked binding does the same and more: it also takes a number to the type
of the other width, where that loses nothing. So an integer is bound exactly to the
integer types that have room for it, and its bytes give it back.
-/

import Mathlib.Algebra.Group.Int.Defs
import Rowsmith.Proofs.Value.Decoding

namespace Rowsmith

/-! ## All or nothing -/

theorem Binding.run_append (bytes buffer : List UInt8) :
    (Binding.append bytes).run buffer = (.ok (), buffer ++ bytes) := rfl

theorem Binding.run_throw (e : BindError) (buffer : List UInt8) :
    (throw e : Binding Unit).run buffer = (.error e, buffer) := rfl

theorem Binding.append_bind_append (first second : List UInt8) :
    (do Binding.append first; Binding.append second) = Binding.append (first ++ second) := by
  funext buffer
  exact congrArg (Except.ok (), ·) (List.append_assoc buffer first second)

theorem Binding.run_throw_ne_ok (e : BindError) (buffer buffer' : List UInt8) :
    (throw e : Binding Unit).run buffer ≠ (.ok (), buffer') :=
  nofun

namespace Value

variable {v w : Value} {type : SqlType} {buffer : List UInt8}

theorem exists_bindPlain_eq_append (h : v.accepts type = true) :
    ∃ bytes, v.bindPlain type = .append bytes := by
  obtain ⟨bytes, hwrite, -⟩ := v.exists_bytes_of_write
  rw [bindPlain, if_pos h, hwrite]
  split
  · exact ⟨[1] ++ bytes, Binding.append_bind_append [1] bytes⟩
  · exact ⟨bytes, rfl⟩

theorem bindPlain_eq_throw (h : v.accepts type = false) :
    v.bindPlain type = throw (.wrongType v.typeName type) := by
  rw [bindPlain, h]
  rfl

/-- `w` is the number `v` in the other width, which is that of `type`. -/
inductive Converts : Value → SqlType → Value → Prop
  | widenedInteger (n : Int32) : Converts (int32 n) .int8 (int64 n.toInt64)
  | widenedFloat (bits : UInt32) : Converts (float32 bits) .float8 (float64 (widenFloat bits))
  | narrowedInteger (n : Int64) (hlow : -0x80000000 ≤ n.toInt) (hhigh : n.toInt < 0x80000000) :
      Converts (int64 n) .int4 (int32 n.toInt32)

theorem Converts.accepts_eq_false (h : v.Converts type w) : v.accepts type = false := by
  cases h <;> rfl

theorem Converts.bind_eq (h : v.Converts type w) : v.bind type = w.write := by
  cases h with
  | widenedInteger n => rfl
  | widenedFloat bits => rfl
  | narrowedInteger n hlow hhigh =>
      rw [bind, if_neg (by omega), if_neg (by omega)]
      rfl

/-- The converted number is of the kind of the type. -/
theorem Converts.bindPlain_eq (h : v.Converts type w) : w.bindPlain type = w.write := by
  cases h <;> rfl

/-- A checked binding converts the value, binds it as it is, or fails where the plain
binding fails too. -/
theorem bind_cases (v : Value) (type : SqlType) :
    (∃ w, v.Converts type w) ∨
      (v.accepts type = true ∧ v.bind type = v.bindPlain type) ∨
      ((¬∃ w, v.Converts type w) ∧ v.accepts type = false ∧ ∃ e, v.bind type = throw e) := by
  by_cases hconverts : ∃ w, v.Converts type w
  · exact .inl hconverts
  · refine .inr ?_
    unfold bind
    split
    · exact absurd ⟨_, .widenedInteger _⟩ hconverts
    · next n =>
      refine .inr ⟨hconverts, rfl, ?_⟩
      split
      · exact ⟨_, rfl⟩
      · next hlow =>
        split
        · exact ⟨_, rfl⟩
        · next hhigh =>
          -- a number in the range would have been converted
          exact absurd ⟨_, .narrowedInteger n (by omega) (by omega)⟩ hconverts
    · exact absurd ⟨_, .widenedFloat _⟩ hconverts
    · cases haccepts : v.accepts type with
      | true => exact .inl ⟨rfl, rfl⟩
      | false => exact .inr ⟨hconverts, rfl, _, bindPlain_eq_throw haccepts⟩

/-- A checked binding appends bytes to any buffer, or fails and leaves any buffer alone. -/
theorem bind_eq_append_or_throw (v : Value) (type : SqlType) :
    (∃ bytes, v.bind type = .append bytes) ∨ ∃ e, v.bind type = throw e := by
  rcases v.bind_cases type with ⟨w, hconverts⟩ | ⟨haccepts, hplain⟩ | ⟨-, -, hthrow⟩
  · obtain ⟨bytes, hwrite, -⟩ := w.exists_bytes_of_write
    exact .inl ⟨bytes, hconverts.bind_eq.trans hwrite⟩
  · obtain ⟨bytes, hbytes⟩ := exists_bindPlain_eq_append haccepts
    exact .inl ⟨bytes, hplain.trans hbytes⟩
  · exact .inr hthrow

theorem bind_eq_bindPlain (h : v.accepts type = true) : v.bind type = v.bindPlain type := by
  rcases v.bind_cases type with ⟨w, hconverts⟩ | ⟨-, hplain⟩ | ⟨-, hrefused, -⟩
  · exact absurd h (Bool.eq_false_iff.mp hconverts.accepts_eq_false)
  · exact hplain
  · exact absurd h (Bool.eq_false_iff.mp hrefused)

/-- A plain binding succeeds exactly for the types of the kind of the value. -/
theorem run_bindPlain_eq_ok_iff :
    (∃ buffer', (v.bindPlain type).run buffer = (.ok (), buffer')) ↔ v.accepts type = true := by
  cases haccepts : v.accepts type with
  | true =>
      obtain ⟨bytes, hbytes⟩ := exists_bindPlain_eq_append haccepts
      exact iff_of_true ⟨buffer ++ bytes, by rw [hbytes, Binding.run_append]⟩ rfl
  | false =>
      refine iff_of_false ?_ Bool.false_ne_true
      rintro ⟨buffer', h⟩
      rw [bindPlain_eq_throw haccepts] at h
      exact Binding.run_throw_ne_ok _ _ _ h

theorem run_bindPlain_eq_error_iff :
    (∃ e buffer', (v.bindPlain type).run buffer = (.error e, buffer')) ↔
      v.accepts type = false := by
  cases haccepts : v.accepts type with
  | true =>
      obtain ⟨bytes, hbytes⟩ := exists_bindPlain_eq_append haccepts
      refine iff_of_false ?_ Bool.true_eq_false.mp
      rintro ⟨e, buffer', h⟩
      rw [hbytes, Binding.run_append] at h
      cases h
  | false =>
      refine iff_of_true ⟨.wrongType v.typeName type, buffer, ?_⟩ rfl
      rw [bindPlain_eq_throw haccepts, Binding.run_throw]

/-- A checked binding succeeds for these types and where the value converts. -/
theorem run_bind_eq_ok_iff :
    (∃ buffer', (v.bind type).run buffer = (.ok (), buffer')) ↔
      v.accepts type = true ∨ ∃ w, v.Converts type w := by
  rcases v.bind_cases type with ⟨w, hconverts⟩ | ⟨haccepts, hplain⟩ | ⟨hnone, hrefused, e, hthrow⟩
  · obtain ⟨bytes, hwrite, -⟩ := w.exists_bytes_of_write
    refine iff_of_true ⟨buffer ++ bytes, ?_⟩ (.inr ⟨w, hconverts⟩)
    rw [hconverts.bind_eq, hwrite, Binding.run_append]
  · rw [hplain, run_bindPlain_eq_ok_iff]
    exact iff_of_true haccepts (.inl haccepts)
  · refine iff_of_false ?_ (not_or.mpr ⟨Bool.eq_false_iff.mp hrefused, hnone⟩)
    rintro ⟨buffer', h⟩
    rw [hthrow] at h
    exact Binding.run_throw_ne_ok _ _ _ h

/-- **The checked binding extends the plain one.** Where the plain binding succeeds, the
checked one appends the same bytes. It succeeds besides exactly where the value is a
number that converts to the width of the type, and binds the converted number then. -/
theorem bind_extends_bindPlain (v : Value) (type : SqlType) (buffer : List UInt8) :
    (∀ buffer', (v.bindPlain type).run buffer = (.ok (), buffer') →
      (v.bind type).run buffer = (.ok (), buffer') ∧ ∃ bytes, buffer' = buffer ++ bytes) ∧
    ((∃ buffer', (v.bind type).run buffer = (.ok (), buffer')) ∧
        (∃ e buffer', (v.bindPlain type).run buffer = (.error e, buffer')) ↔
      ∃ w, v.Converts type w) ∧
    ∀ w, v.Converts type w → (v.bind type).run buffer = (w.bindPlain type).run buffer := by
  refine ⟨fun buffer' h => ?_, ?_, fun w hconverts => ?_⟩
  · have haccepts : v.accepts type = true := run_bindPlain_eq_ok_iff.mp ⟨buffer', h⟩
    obtain ⟨bytes, hbytes⟩ := exists_bindPlain_eq_append haccepts
    rw [bind_eq_bindPlain haccepts]
    refine ⟨h, bytes, ?_⟩
    rw [hbytes, Binding.run_append] at h
    exact (congrArg Prod.snd h).symm
  · rw [run_bind_eq_ok_iff, run_bindPlain_eq_error_iff]
    constructor
    · rintro ⟨haccepts | hconverts, hrefused⟩
      · exact absurd haccepts (Bool.eq_false_iff.mp hrefused)
      · exact hconverts
    · rintro ⟨w, hconverts⟩
      exact ⟨.inr ⟨w, hconverts⟩, hconverts.accepts_eq_false⟩
  · rw [hconverts.bind_eq, hconverts.bindPlain_eq]

/-- The least number of 32 bits narrows; a number of 64 bits is bound as it is by both. -/
theorem bind_extends_bindPlain_least :
    (((int64 7).bindPlain .int8).run [1] = (.ok (), [1, 0, 0, 0, 0, 0, 0, 0, 7]) ∧
      ((int64 7).bind .int8).run [1] = (.ok (), [1, 0, 0, 0, 0, 0, 0, 0, 7])) ∧
    (int64 (-2147483648)).Converts .int4 (int32 (-2147483648)) ∧
    ((∃ buffer', ((int64 (-2147483648)).bind .int4).run [1] = (.ok (), buffer')) ∧
      ∃ e buffer', ((int64 (-2147483648)).bindPlain .int4).run [1] = (.error e, buffer')) ∧
    ((int64 (-2147483648)).bind .int4).run [1] = (.ok (), [1, 128, 0, 0, 0]) := by
  have hplain : ((int64 7).bindPlain .int8).run [1] = (.ok (), [1, 0, 0, 0, 0, 0, 0, 0, 7]) := rfl
  have hconverts : (int64 (-2147483648)).Converts .int4 (int32 (-2147483648)) :=
    .narrowedInteger (-2147483648) (by decide) (by decide)
  obtain ⟨hsame, -, -⟩ := bind_extends_bindPlain (int64 7) .int8 [1]
  obtain ⟨-, hmore, hbound⟩ := bind_extends_bindPlain (int64 (-2147483648)) .int4 [1]
  exact ⟨⟨hplain, (hsame _ hplain).1⟩, hconverts, hmore.mpr ⟨_, hconverts⟩, hbound _ hconverts⟩

/-! ## Integers -/

/-- The number that a value of a kind of integers is. -/
def asInteger? : Value → Option Int
  | int32 n => some n.toInt
  | int64 n => some n.toInt
  | _ => none

end Value

/-- The number of bytes of a type that takes integers. -/
def SqlType.integerWidth? : SqlType → Option Nat
  | int4 => some 4
  | int8 => some 8
  | _ => none

/-- Whether `n` is a number in two's complement of `width` bytes. -/
def FitsIn (width : Nat) (n : Int) : Prop :=
  -2 ^ (8 * width - 1) ≤ n ∧ n < 2 ^ (8 * width - 1)

theorem SqlType.integerWidth?_eq_some_iff {type : SqlType} {width : Nat} :
    type.integerWidth? = some width ↔ type = .int4 ∧ width = 4 ∨ type = .int8 ∧ width = 8 := by
  cases type <;> simp [integerWidth?, eq_comm]

namespace Value

variable {v w : Value} {type : SqlType} {n : Int}

/-- As many bytes as the type has, which give the integer back. -/
structure HoldsInteger (type : SqlType) (n : Int) (bytes : List UInt8) : Prop where
  width : type.integerWidth? = some bytes.length
  fits : FitsIn bytes.length n
  read : ofTwosComplement bytes = n

theorem asInteger?_eq_some_iff :
    v.asInteger? = some n ↔ (∃ m, v = int32 m ∧ m.toInt = n) ∨ ∃ m, v = int64 m ∧ m.toInt = n := by
  cases v <;> simp [asInteger?]

theorem holdsInteger_bigEndian {width m : Nat} (hwidth : type.integerWidth? = some width)
    (hfits : FitsIn width n) (hread : ofTwosComplement (bigEndian width m) = n) :
    HoldsInteger type n (bigEndian width m) where
  width := by rw [length_bigEndian, hwidth]
  fits := by rwa [length_bigEndian]
  read := hread

theorem exists_write_int32 (m : Int32) :
    ∃ bytes, (int32 m).write = .append bytes ∧ HoldsInteger .int4 m.toInt bytes :=
  ⟨_, rfl, holdsInteger_bigEndian rfl ⟨m.le_toInt, m.toInt_lt⟩ (ofTwosComplement_int32 m)⟩

theorem exists_write_int64 (m : Int64) :
    ∃ bytes, (int64 m).write = .append bytes ∧ HoldsInteger .int8 m.toInt bytes :=
  ⟨_, rfl, holdsInteger_bigEndian rfl ⟨m.le_toInt, m.toInt_lt⟩ (ofTwosComplement_int64 m)⟩

/-- An integer that converts is the same number in the other width. -/
theorem Converts.exists_write (h : v.Converts type w) (hn : v.asInteger? = some n) :
    ∃ bytes, w.write = .append bytes ∧ HoldsInteger type n bytes := by
  cases h with
  | widenedInteger m =>
      cases hn
      rw [← m.toInt_toInt64]
      exact exists_write_int64 m.toInt64
  | widenedFloat bits => cases hn
  | narrowedInteger m hlow hhigh =>
      cases hn
      have hsame : m.toInt32.toInt = m.toInt := by
        rw [m.toInt_toInt32]
        exact Int.bmod_eq_of_le (by omega) (by omega)
      rw [← hsame]
      exact exists_write_int32 m.toInt32

/-- An integer that is bound as it is has the width of the type. -/
theorem exists_bindPlain_eq (haccepts : v.accepts type = true) (hn : v.asInteger? = some n) :
    ∃ bytes, v.bindPlain type = .append bytes ∧ HoldsInteger type n bytes := by
  rcases asInteger?_eq_some_iff.mp hn with ⟨m, rfl, rfl⟩ | ⟨m, rfl, rfl⟩
  · obtain rfl : type = .int4 := by simpa [accepts] using haccepts
    exact exists_write_int32 m
  · obtain rfl : type = .int8 := by simpa [accepts] using haccepts
    exact exists_write_int64 m

/-- A type that has room for an integer takes it as it is or in the other width. -/
theorem exists_converts_of_fits {width : Nat} (hn : v.asInteger? = some n)
    (hrefused : v.accepts type = false) (hwidth : type.integerWidth? = some width)
    (hfits : FitsIn width n) : ∃ w, v.Converts type w := by
  rcases asInteger?_eq_some_iff.mp hn with ⟨m, rfl, rfl⟩ | ⟨m, rfl, rfl⟩
  · rcases SqlType.integerWidth?_eq_some_iff.mp hwidth with ⟨rfl, rfl⟩ | ⟨rfl, rfl⟩
    · cases hrefused
    · exact ⟨_, .widenedInteger m⟩
  · rcases SqlType.integerWidth?_eq_some_iff.mp hwidth with ⟨rfl, rfl⟩ | ⟨rfl, rfl⟩
    · exact ⟨_, .narrowedInteger m hfits.1 hfits.2⟩
    · cases hrefused

/-- A checked binding of an integer appends the bytes that hold it, or fails for want of
room. -/
theorem bind_integer_cases (hn : v.asInteger? = some n) (type : SqlType) :
    (∃ bytes, v.bind type = .append bytes ∧ HoldsInteger type n bytes) ∨
      (¬∃ width, type.integerWidth? = some width ∧ FitsIn width n) ∧
        ∃ e, v.bind type = throw e := by
  rcases v.bind_cases type with ⟨w, hconverts⟩ | ⟨haccepts, hplain⟩ | ⟨hnone, haccepts, hthrow⟩
  · obtain ⟨bytes, hwrite, hholds⟩ := hconverts.exists_write hn
    exact .inl ⟨bytes, hconverts.bind_eq.trans hwrite, hholds⟩
  · obtain ⟨bytes, hbytes, hholds⟩ := exists_bindPlain_eq haccepts hn
    exact .inl ⟨bytes, hplain.trans hbytes, hholds⟩
  · refine .inr ⟨?_, hthrow⟩
    rintro ⟨width, hwidth, hfits⟩
    exact hnone (exists_converts_of_fits hn haccepts hwidth hfits)

/-- **Integers are bound without loss, or not at all.** The checked binding of an integer
succeeds exactly for the integer types that have room for it. It appends as many bytes as
the type has, which give the integer back. Whatever the value, a binding that fails leaves
the buffer as it was. -/
theorem integers_bound_losslessly :
    (∀ (v : Value) (n : Int) (type : SqlType) (buffer : List UInt8), v.asInteger? = some n →
      ((∃ buffer', (v.bind type).run buffer = (.ok (), buffer')) ↔
        ∃ width, type.integerWidth? = some width ∧ FitsIn width n) ∧
      ∀ buffer', (v.bind type).run buffer = (.ok (), buffer') →
        ∃ bytes, buffer' = buffer ++ bytes ∧ type.integerWidth? = some bytes.length ∧
          ofTwosComplement bytes = n) ∧
    ∀ (v : Value) (type : SqlType) (buffer buffer' : List UInt8) (e : BindError),
      (v.bind type).run buffer = (.error e, buffer') → buffer' = buffer := by
  refine ⟨fun v n type buffer hn => ?_, fun v type buffer buffer' e h => ?_⟩
  · rcases bind_integer_cases hn type with ⟨bytes, hbytes, hholds⟩ | ⟨hnone, e, hthrow⟩
    · rw [hbytes, Binding.run_append]
      refine ⟨iff_of_true ⟨_, rfl⟩ ⟨_, hholds.width, hholds.fits⟩, fun buffer' h => ?_⟩
      exact ⟨bytes, (congrArg Prod.snd h).symm, hholds.width, hholds.read⟩
    · rw [hthrow]
      refine ⟨iff_of_false ?_ hnone, fun buffer' h => ?_⟩
      · rintro ⟨buffer', h⟩
        exact Binding.run_throw_ne_ok _ _ _ h
      · exact absurd h (Binding.run_throw_ne_ok _ _ _)
  · rcases v.bind_eq_append_or_throw type with ⟨bytes, hbytes⟩ | ⟨e', hthrow⟩
    · rw [hbytes, Binding.run_append] at h
      cases h
    · rw [hthrow, Binding.run_throw] at h
      exact (congrArg Prod.snd h).symm

/-- The least number of 32 bits is bound to four bytes; the one below it is refused, and the
buffer stays. -/
theorem integers_bound_losslessly_least :
    ((int64 (-2147483648)).asInteger? = some (-2147483648) ∧
      ((int64 (-2147483648)).bind .int4).run [1] = (.ok (), [1, 128, 0, 0, 0]) ∧
      ∃ bytes, [1, 128, 0, 0, 0] = [1] ++ bytes ∧
        SqlType.int4.integerWidth? = some bytes.length ∧ ofTwosComplement bytes = -2147483648) ∧
    ((int64 (-2147483649)).asInteger? = some (-2147483649) ∧
      ((int64 (-2147483649)).bind .int4).run [1] = (.error .belowRange, [1]) ∧
      ¬∃ width, SqlType.int4.integerWidth? = some width ∧ FitsIn width (-2147483649)) := by
  obtain ⟨hbound, hkept⟩ := integers_bound_losslessly
  have hwritten : ((int64 (-2147483648)).bind .int4).run [1] = (.ok (), [1, 128, 0, 0, 0]) := rfl
  have hrefused : ((int64 (-2147483649)).bind .int4).run [1] = (.error .belowRange, [1]) := rfl
  obtain ⟨-, hread⟩ := hbound (int64 (-2147483648)) (-2147483648) .int4 [1] rfl
  obtain ⟨hroom, -⟩ := hbound (int64 (-2147483649)) (-2147483649) .int4 [1] rfl
  refine ⟨⟨rfl, hwritten, hread _ hwritten⟩, rfl, hrefused, ?_⟩
  rw [← hroom]
  rintro ⟨buffer', h⟩
  cases hrefused.symm.trans h

end Value

end Rowsmith
