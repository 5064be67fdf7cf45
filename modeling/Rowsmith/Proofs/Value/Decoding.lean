/-
# Reading bound values back

A column whose type follows from the kind of its values takes every value of that kind. The type is
rendered under a name that the database knows, a value is bound to the type of that name, and the
binary format of the type gives the value back from the bytes that were sent.

Timestamps are the exception. Their format counts microseconds from the start of 2000: parts of a
microsecond are lost, and a leap second is the second that follows it.
-/

import Mathlib.Algebra.Group.Nat.Defs
import Mathlib.Tactic.SplitIfs
import Rowsmith.Proofs.Code.NonceValues
import Rowsmith.Proofs.Statement.Reading
import Rowsmith.Table.ColumnType
import Rowsmith.Value.Binding

namespace Rowsmith

/-! ## Numbers as bytes -/

@[simp]
theorem length_bigEndian (width n : Nat) : (bigEndian width n).length = width := by
  induction width generalizing n with
  | zero => rfl
  | succ width ih => simp [bigEndian, ih]

theorem ofBigEndian_append_singleton (bs : List UInt8) (b : UInt8) :
    ofBigEndian (bs ++ [b]) = 256 * ofBigEndian bs + b.toNat := by
  simp [ofBigEndian]

/-- The lowest bytes of a number give it back up to their width. -/
theorem ofBigEndian_bigEndian (width n : Nat) :
    ofBigEndian (bigEndian width n) = n % 256 ^ width := by
  induction width generalizing n with
  | zero => simp [bigEndian, ofBigEndian, Nat.mod_one]
  | succ width ih =>
      have hbyte : (UInt8.ofNat n).toNat = n % 256 := UInt8.toNat_ofNat'
      rw [bigEndian, ofBigEndian_append_singleton, ih, hbyte, Nat.pow_succ', Nat.mod_mul,
        Nat.add_comm]

/-- The number with these bytes in two's complement, highest first. -/
def ofTwosComplement (bs : List UInt8) : Int :=
  (ofBigEndian bs : Int).bmod (256 ^ bs.length)

theorem ofTwosComplement_bigEndian (width n : Nat) :
    ofTwosComplement (bigEndian width n) = (n : Int).bmod (256 ^ width) := by
  rw [ofTwosComplement, length_bigEndian, ofBigEndian_bigEndian, Int.natCast_emod, Int.emod_bmod]

/-- A word gives its signed value back from its bytes. -/
theorem ofTwosComplement_bitVec (width : Nat) (x : BitVec (8 * width)) :
    ofTwosComplement (bigEndian width x.toNat) = x.toInt := by
  have hwidth : (256 : Nat) ^ width = 2 ^ (8 * width) := (Nat.pow_mul 2 8 width).symm
  rw [ofTwosComplement_bigEndian, hwidth, BitVec.toInt_eq_toNat_bmod]

/-! ## Texts as bytes -/

/-- Listing bytes from a place on. -/
theorem toList_loop (bs : ByteArray) (i : Nat) (r : List UInt8) :
    ByteArray.toList.loop bs i r = r.reverse ++ bs.data.toList.drop i := by
  fun_induction ByteArray.toList.loop bs i r with
  | case1 i r h ih =>
      have hlt : i < bs.data.toList.length := by simpa using h
      have hget : bs.get! i = bs.data.toList[i] := by
        simp [ByteArray.get!, getElem!_pos bs.data i h]
      rw [ih, hget, List.reverse_cons, List.append_assoc, List.singleton_append,
        List.getElem_cons_drop]
  | case2 i r h =>
      have hend : bs.data.toList.length ≤ i := by simpa using h
      rw [List.drop_eq_nil_of_le hend, List.append_nil]

theorem mk_toArray_toList (bs : ByteArray) : (⟨bs.toList.toArray⟩ : ByteArray) = bs := by
  have h : bs.toList = bs.data.toList := toList_loop bs 0 []
  cases bs
  simp [h]

theorem fromUTF8?_toUTF8 (s : String) : String.fromUTF8? s.toUTF8 = some s :=
  dif_pos s.isValidUTF8

/-! ## Timestamps as bytes -/

namespace Instant

/-- Nanoseconds from the start of 2000. A leap second counts as the second that follows it. -/
def elapsed (t : Instant) : Int :=
  (t.seconds - epoch2000) * nanosPerSecond + t.nanos

/-- The instant that lies `micros` microseconds after the start of 2000. -/
def ofMicroseconds? (micros : Int) : Option Instant :=
  of? (epoch2000 + micros / 1000000) (1000 * (micros % 1000000).toNat)

/-- Whether the instant lies in a leap second. -/
def IsLeap (t : Instant) : Prop :=
  nanosPerSecond ≤ t.nanos

/-- Whether the instant lies in the last second of the calendar. -/
def IsLast (t : Instant) : Prop :=
  t.seconds = 8210266876799

/-- Whether `t'` is `t` without the part of a microsecond by which it is farther from the start of
2000. -/
structure RoundsTo (t t' : Instant) : Prop where
  whole : 1000 ∣ t'.nanos
  regular : ¬t'.IsLeap
  near : (t'.elapsed - t.elapsed).natAbs < 1000
  toward : t'.elapsed.natAbs ≤ t.elapsed.natAbs

theorem ext {t t' : Instant} (hseconds : t.seconds = t'.seconds) (hnanos : t.nanos = t'.nanos) :
    t = t' := by
  cases t
  cases t'
  simp_all

/-- An instant of whole microseconds outside leap seconds is rounded to itself. -/
theorem RoundsTo.eq {t t' : Instant} (h : t.RoundsTo t') (hleap : ¬t.IsLeap)
    (hwhole : 1000 ∣ t.nanos) : t' = t := by
  have hregular := h.regular
  have hnear := h.near
  obtain ⟨m, hm⟩ := hwhole
  obtain ⟨m', hm'⟩ := h.whole
  simp only [IsLeap, elapsed, nanosPerSecond] at hleap hregular hnear
  exact ext (by omega) (by omega)

/-- Microseconds are counted by division of the natural number of nanoseconds on each side of the
start of 2000. -/
theorem microseconds_cases (t : Instant) :
    0 ≤ t.elapsed ∧ t.microseconds = t.elapsed / 1000 ∨
      t.elapsed < 0 ∧ t.microseconds = -(-t.elapsed / 1000) := by
  have heq : t.microseconds = t.elapsed.tdiv 1000 := rfl
  rcases Int.lt_or_le t.elapsed 0 with hneg | hpos
  · refine .inr ⟨hneg, ?_⟩
    rw [heq, ← Int.neg_neg t.elapsed, Int.neg_tdiv,
      Int.tdiv_eq_ediv_of_nonneg (a := -t.elapsed) (by omega), Int.neg_neg]
  · exact .inl ⟨hpos, by rw [heq, Int.tdiv_eq_ediv_of_nonneg hpos]⟩

/-- The number of microseconds fits in 64 bits. -/
theorem microseconds_mem_range (t : Instant) :
    -0x8000000000000000 ≤ t.microseconds ∧ t.microseconds < 0x8000000000000000 := by
  have hcalendar := t.inCalendar
  have hsecond := t.inSecond
  have hmicros := t.microseconds_cases
  simp only [elapsed, epoch2000, nanosPerSecond] at hsecond hmicros
  omega

theorem elapsed_of_ofMicroseconds? {micros : Int} {t : Instant}
    (h : ofMicroseconds? micros = some t) :
    t.elapsed = 1000 * micros ∧ 1000 ∣ t.nanos ∧ ¬t.IsLeap := by
  obtain ⟨hseconds, hnanos⟩ :
      t.seconds = epoch2000 + micros / 1000000 ∧ t.nanos = 1000 * (micros % 1000000).toNat := by
    unfold ofMicroseconds? of? at h
    split_ifs at h
    cases h
    exact ⟨rfl, rfl⟩
  simp only [elapsed, IsLeap, hseconds, hnanos, nanosPerSecond]
  omega

theorem ofMicroseconds?_eq_none_iff {micros : Int} :
    ofMicroseconds? micros = none ↔
      epoch2000 + micros / 1000000 < -8334601228800 ∨
        8210266876799 < epoch2000 + micros / 1000000 := by
  unfold ofMicroseconds? of?
  split_ifs with hcalendar hsecond
  · simp only [false_iff]
    omega
  · simp only [nanosPerSecond] at hsecond
    omega
  · simp only [true_iff]
    omega

/-- The microseconds of an instant give it back, rounded. -/
theorem roundsTo_of_ofMicroseconds? {t t' : Instant}
    (h : ofMicroseconds? t.microseconds = some t') : t.RoundsTo t' := by
  obtain ⟨helapsed, hwhole, hregular⟩ := elapsed_of_ofMicroseconds? h
  rcases t.microseconds_cases with ⟨hpos, hmicros⟩ | ⟨hneg, hmicros⟩
  · exact ⟨hwhole, hregular, by omega, by omega⟩
  · exact ⟨hwhole, hregular, by omega, by omega⟩

/-- Only the leap second at the end of the calendar is not given back. -/
theorem ofMicroseconds?_microseconds_eq_none_iff {t : Instant} :
    ofMicroseconds? t.microseconds = none ↔ t.IsLeap ∧ t.IsLast := by
  have hcalendar := t.inCalendar
  have hsecond := t.inSecond
  have hmicros := t.microseconds_cases
  rw [ofMicroseconds?_eq_none_iff]
  simp only [elapsed, epoch2000, nanosPerSecond, IsLeap, IsLast] at hsecond hmicros ⊢
  omega

end Instant

/-! ## The formats of the types -/

open Statement

namespace SqlType

/-- Whether `cs` writes a length in parentheses. -/
def isLength : List Char → Bool
  | '(' :: cs =>
    !(cs.takeWhile Char.isDigit).isEmpty && cs.dropWhile Char.isDigit == [')']
  | _ => false

/-- The type that a column type names in the database. A length may follow the name of a type for
texts. -/
def ofName? (name : String) : Option SqlType :=
  let cs := name.toList
  match String.ofList (cs.takeWhile (· != '(')), cs.dropWhile (· != '(') with
  | "BOOLEAN", [] => some bool
  | "INTEGER", [] => some int4
  | "BIGINT", [] => some int8
  | "REAL", [] => some float4
  | "DOUBLE PRECISION", [] => some float8
  | "BYTEA", [] => some bytea
  | "TIMESTAMP", [] => some timestamp
  | "VARCHAR", length => if isLength length then some varchar else none
  | _, _ => none

/-- The value that bytes stand for in the binary format of a type, for the types that `ofName?`
gives. -/
def decode? : SqlType → List UInt8 → Option Value
  | bool, [b] => some (.bool (b != 0))
  | int4, bs => if bs.length = 4 then some (.int32 (.ofInt (ofTwosComplement bs))) else none
  | int8, bs => if bs.length = 8 then some (.int64 (.ofInt (ofTwosComplement bs))) else none
  | float4, bs => if bs.length = 4 then some (.float32 (.ofNat (ofBigEndian bs))) else none
  | float8, bs => if bs.length = 8 then some (.float64 (.ofNat (ofBigEndian bs))) else none
  | varchar, bs => (String.fromUTF8? ⟨bs.toArray⟩).map .text
  | bytea, bs => some (.bytes bs)
  | timestamp, bs =>
    if bs.length = 8 then (Instant.ofMicroseconds? (ofTwosComplement bs)).map .timestamp
    else none
  | _, _ => none

/-- The type to which the values of a kind are bound as they are. -/
def ofKind : Primitive → SqlType
  | .bool => bool
  | .int32 => int4
  | .int64 => int8
  | .float32 => float4
  | .float64 => float8
  | .text => varchar
  | .binary => bytea
  | .timestamp => timestamp

/-- The column type of a kind names the type of that kind. -/
theorem ofName?_render {textBound : Nat} {kind : Primitive} {column : ColumnType}
    (h : ColumnType.ofKind textBound kind none = .ok column) :
    ofName? (column.render .postgres) = some (ofKind kind) := by
  cases h
  cases kind with
  | bool | int32 | int64 | float32 | float64 | binary | timestamp =>
      simp only [ColumnType.render]
      decide +kernel
  | text =>
      have hdigit : ∀ c ∈ Nat.toDigits 10 textBound, c.isDigit = true := fun c hc =>
        Nat.isDigit_of_mem_toDigits (by omega) (by omega) hc
      have hlength : isLength ('(' :: (Nat.toDigits 10 textBound ++ [')'])) = true := by
        simp [isLength, List.takeWhile_append_of_pos hdigit, List.dropWhile_append_of_pos hdigit,
          Nat.toDigits_ne_nil]
      have htext : ((ColumnType.varChar textBound).render .postgres).toList =
          "VARCHAR".toList ++ '(' :: (Nat.toDigits 10 textBound ++ [')']) := by
        simp [ColumnType.render]
      have hname : ('(' :: (Nat.toDigits 10 textBound ++ [')'])).takeWhile (· != '(') = [] := rfl
      have hrest : ('(' :: (Nat.toDigits 10 textBound ++ [')'])).dropWhile (· != '(') =
        '(' :: (Nat.toDigits 10 textBound ++ [')']) := rfl
      have hbefore : ∀ c ∈ "VARCHAR".toList, (c != '(') = true := by simp
      simp only [ofName?, htext, List.takeWhile_append_of_pos hbefore,
        List.dropWhile_append_of_pos hbefore, hname, hrest, List.append_nil, String.ofList_toList]
      exact if_pos hlength

end SqlType

/-! ## Values -/

namespace Value

/-- Whether `read` is what reading the bytes of a value may give. A timestamp comes back rounded,
and a leap second at the end of the calendar does not come back. Any other value comes back. -/
def IsGivenBack : Value → Option Value → Prop
  | timestamp t, read =>
    (∃ t', read = some (timestamp t') ∧ t.RoundsTo t') ∨ t.IsLeap ∧ t.IsLast ∧ read = none
  | v, read => read = some v

theorem bind_ofKind (v : Value) : v.bind (.ofKind v.kind) = v.write := by
  cases v <;> rfl

theorem ofTwosComplement_int32 (n : Int32) :
    ofTwosComplement (bigEndian 4 n.toUInt32.toNat) = n.toInt :=
  ofTwosComplement_bitVec 4 n.toBitVec

theorem ofTwosComplement_int64 (n : Int64) :
    ofTwosComplement (bigEndian 8 n.toUInt64.toNat) = n.toInt :=
  ofTwosComplement_bitVec 8 n.toBitVec

/-- A count of microseconds is read back from its eight bytes. -/
theorem ofTwosComplement_microseconds (t : Instant) :
    ofTwosComplement (bigEndian 8 (t.microseconds % 0x10000000000000000).toNat) =
      t.microseconds := by
  obtain ⟨hlow, hhigh⟩ := t.microseconds_mem_range
  have hwidth : (256 : Nat) ^ 8 = 0x10000000000000000 := by decide
  rw [ofTwosComplement_bigEndian, Int.toNat_of_nonneg (by omega), hwidth, Int.bmod_def]
  omega

/-- Binding an instant never fails. -/
theorem write_timestamp (t : Instant) :
    (timestamp t).write =
      .append (bigEndian 8 (t.microseconds % 0x10000000000000000).toNat) :=
  if_pos t.microseconds_mem_range

/-- What reading the bytes of an instant gives. -/
theorem decode?_microseconds (t : Instant) :
    SqlType.timestamp.decode? (bigEndian 8 (t.microseconds % 0x10000000000000000).toNat) =
      (Instant.ofMicroseconds? t.microseconds).map timestamp := by
  rw [SqlType.decode?, if_pos (length_bigEndian _ _), ofTwosComplement_microseconds]

/-- The bytes of a value give it back in the format of the type of its kind. -/
theorem exists_bytes_of_write (v : Value) :
    ∃ bytes, v.write = .append bytes ∧ v.IsGivenBack ((SqlType.ofKind v.kind).decode? bytes) := by
  cases v with
  | bool b => exact ⟨_, rfl, by cases b <;> rfl⟩
  | int32 n =>
      refine ⟨_, rfl, ?_⟩
      simp [IsGivenBack, kind, SqlType.ofKind, SqlType.decode?, ofTwosComplement_int32]
  | int64 n =>
      refine ⟨_, rfl, ?_⟩
      simp [IsGivenBack, kind, SqlType.ofKind, SqlType.decode?, ofTwosComplement_int64]
  | float32 bits =>
      refine ⟨_, rfl, ?_⟩
      have hbits := Nat.mod_eq_of_lt bits.toNat_lt
      simp [IsGivenBack, kind, SqlType.ofKind, SqlType.decode?, ofBigEndian_bigEndian, hbits]
  | float64 bits =>
      refine ⟨_, rfl, ?_⟩
      have hbits := Nat.mod_eq_of_lt bits.toNat_lt
      simp [IsGivenBack, kind, SqlType.ofKind, SqlType.decode?, ofBigEndian_bigEndian, hbits]
  | text s =>
      refine ⟨_, rfl, ?_⟩
      simp only [IsGivenBack, kind, SqlType.ofKind, SqlType.decode?, mk_toArray_toList,
        fromUTF8?_toUTF8, Option.map_some]
  | bytes bs => exact ⟨_, rfl, rfl⟩
  | timestamp t =>
      refine ⟨_, write_timestamp t, ?_⟩
      simp only [IsGivenBack, kind, SqlType.ofKind, decode?_microseconds]
      cases hread : Instant.ofMicroseconds? t.microseconds with
      | none =>
          obtain ⟨hleap, hlast⟩ := Instant.ofMicroseconds?_microseconds_eq_none_iff.mp hread
          exact .inr ⟨hleap, hlast, rfl⟩
      | some t' => exact .inl ⟨t', rfl, Instant.roundsTo_of_ofMicroseconds? hread⟩

/-- **A column takes every value of its kind.** The type of the column has a name that the database
knows, binding to the type of that name succeeds after any bytes, and the binary format of the type
gives the value back. -/
theorem stored_in_column_of_kind (v : Value) (textBound : Nat) :
    ∃ column type bytes,
      ColumnType.ofKind textBound v.kind none = .ok column ∧
      SqlType.ofName? (column.render .postgres) = some type ∧
      (∀ buffer, (v.bind type).run buffer = (.ok (), buffer ++ bytes)) ∧
      v.IsGivenBack (type.decode? bytes) ∧
      ∀ t, v = timestamp t → ¬t.IsLeap → 1000 ∣ t.nanos → type.decode? bytes = some v := by
  obtain ⟨bytes, hwrite, hback⟩ := v.exists_bytes_of_write
  refine ⟨_, SqlType.ofKind v.kind, bytes, rfl, SqlType.ofName?_render rfl, fun buffer => ?_,
    hback, ?_⟩
  · rw [bind_ofKind, hwrite]
    rfl
  · rintro t rfl hleap hwhole
    rcases hback with ⟨t', hread, hrounds⟩ | ⟨hleap', -, -⟩
    · rw [hread, hrounds.eq hleap hwhole]
    · exact absurd hleap' hleap

/-- The middle of the leap second at the end of 2016. -/
def leapSecond2016 : Instant :=
  ⟨1483228799, 1500000000, by decide, by decide⟩

/-- No timestamp in the leap second comes back: the format has none to give. -/
theorem leapSecond2016_not_given_back :
    ¬∃ column type bytes t',
      ColumnType.ofKind 255 (timestamp leapSecond2016).kind none = .ok column ∧
      SqlType.ofName? (column.render .postgres) = some type ∧
      ((timestamp leapSecond2016).bind type).run [] = (.ok (), bytes) ∧
      type.decode? bytes = some (timestamp t') ∧
      t'.seconds = leapSecond2016.seconds ∧ t'.nanos / 1000 = leapSecond2016.nanos / 1000 := by
  rintro ⟨column, type, bytes, t', hcolumn, htype, hbytes, hread, hseconds, -⟩
  obtain rfl : SqlType.timestamp = type :=
    Option.some.inj ((SqlType.ofName?_render hcolumn).symm.trans htype)
  obtain rfl : bigEndian 8 536544000500000 = bytes := congrArg Prod.snd hbytes
  have hnext : SqlType.timestamp.decode? (bigEndian 8 536544000500000) =
      some (timestamp ⟨1483228800, 500000000, by decide, by decide⟩) := by
    decide +kernel
  cases hread.symm.trans hnext
  exact absurd hseconds (by decide)

end Value

end Rowsmith
