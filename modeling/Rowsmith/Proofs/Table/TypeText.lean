/-
# The texts of column types

A field may ask for a column type by a text. The reader looks for the first
parenthesis that opens and then for the first that closes, and never scans a
grammar. Which texts it accepts is said here by a grammar all the same: words of
letters, digits and low lines with blanks between them, and perhaps a number in
parentheses. `parse_exact` says that the reader accepts these texts and no others,
that the type it gives is written in one plain way that is read as the same type, and
that blanks count for nothing but that they part words.
-/

import Mathlib.Algebra.Group.Nat.Defs
import Rowsmith.Proofs.Text.Blank
import Rowsmith.Proofs.Text.SnakeCase
import Rowsmith.Proofs.Traversal
import Rowsmith.Table.ColumnType

namespace Rowsmith

open Text

/-! ## Cutting at a character -/

section

variable {α : Type} {a : α} {xs ys before after run : List α}

/-- A text goes on with the first `stop`. -/
theorem cut_append {stop : Char} {front : List Char} (h : stop ∉ front) (back : List Char) :
    (front ++ stop :: back).takeWhile (· != stop) = front ∧
      (front ++ stop :: back).dropWhile (· != stop) = stop :: back := by
  have hfront : ∀ c ∈ front, (c != stop) = true := fun c hc => by
    simpa using fun heq : c = stop => h (heq ▸ hc)
  simp [List.takeWhile_append_of_pos hfront, List.dropWhile_append_of_pos hfront]

theorem cut_inj {stop : Char} {front front' back back' : List Char} (h : stop ∉ front)
    (h' : stop ∉ front') (heq : front ++ stop :: back = front' ++ stop :: back') :
    front = front' ∧ back = back' := by
  obtain ⟨htake, hdrop⟩ := cut_append h back
  obtain ⟨htake', hdrop'⟩ := cut_append h' back'
  rw [heq] at htake hdrop
  exact ⟨htake.symm.trans htake', (List.cons.inj (hdrop.symm.trans hdrop')).2⟩

theorem cut_of_not_mem {stop : Char} {cs : List Char} (h : stop ∉ cs) :
    cs.takeWhile (· != stop) = cs ∧ cs.dropWhile (· != stop) = [] := by
  have hcs : ∀ c ∈ cs, (c != stop) = true := fun c hc => by
    simpa using fun heq : c = stop => h (heq ▸ hc)
  have htake : (cs ++ []).takeWhile (· != stop) = cs ++ [] := List.takeWhile_append_of_pos hcs
  have hdrop : (cs ++ []).dropWhile (· != stop) = [] := List.dropWhile_append_of_pos hcs
  rw [List.append_nil] at htake hdrop
  exact ⟨htake, hdrop⟩

/-- What does not stand in the middle of a list stands on one of its sides. -/
theorem exists_side (hrun : a ∉ run) (h : xs ++ (run ++ ys) = before ++ a :: after) :
    (∃ m, xs = before ++ a :: m ∧ after = m ++ (run ++ ys)) ∨
      ∃ m, ys = m ++ a :: after ∧ before = xs ++ (run ++ m) := by
  rcases List.append_eq_append_iff.mp h with ⟨m, rfl, hright⟩ | ⟨m, rfl, hleft⟩
  · rcases List.append_eq_append_iff.mp hright with ⟨m', rfl, hys⟩ | ⟨m', rfl, hmiddle⟩
    · exact .inr ⟨m', hys, rfl⟩
    · cases m' with
      | nil => exact .inr ⟨[], hmiddle.symm, by simp⟩
      | cons b m' =>
          obtain ⟨rfl, -⟩ := List.cons.inj hmiddle
          exact absurd (List.mem_append_right m List.mem_cons_self) hrun
  · cases m with
    | nil =>
        cases run with
        | nil => exact .inr ⟨[], hleft.symm, by simp⟩
        | cons b run =>
            obtain ⟨rfl, -⟩ := List.cons.inj hleft
            exact absurd List.mem_cons_self hrun
    | cons b m =>
        obtain ⟨rfl, rfl⟩ := List.cons.inj hleft
        exact .inl ⟨m, rfl, rfl⟩

end

namespace ExplicitType

/-! ## The grammar -/

/-- A word of the name of a type: a letter, and then letters, digits and low lines. -/
inductive IsTypeWord : List Char → Prop where
  | word {c : Char} {cs : List Char} (hc : c.isAlpha = true)
      (hcs : ∀ d ∈ cs, d.isAlphanum = true ∨ d = '_') : IsTypeWord (c :: cs)

/-- The text is a numeral for `n`, a number of 32 bits: digits, perhaps with a plus before
them. -/
def IsNumeral (cs : List Char) (n : Nat) : Prop :=
  ∃ digits, (cs = digits ∨ cs = '+' :: digits) ∧ digits ≠ [] ∧
    (∀ c ∈ digits, c.isDigit = true) ∧ n = Nat.ofDigitChars 10 digits 0 ∧ n < 2 ^ 32

/-- The text, which has no blanks at its ends, asks for the type with the words `ws` and the
parameter: it is the words with blanks between them, and perhaps a positive number in
parentheses, with blanks where they join no words. -/
inductive Writes (ws : List (List Char)) : Option Nat → List Char → Prop where
  | name {cs : List Char} (hwords : ∀ w ∈ ws, IsTypeWord w) (hname : Spaced ws cs) :
      Writes ws none cs
  | parameter {name gap lead numeral trail : List Char} {n : Nat}
      (hwords : ∀ w ∈ ws, IsTypeWord w) (hname : Spaced ws name) (hgap : IsGap gap)
      (hlead : IsGap lead) (htrail : IsGap trail) (hn : IsNumeral numeral n) (hpos : 1 ≤ n) :
      Writes ws (some n)
        (name ++ (gap ++ '(' :: (lead ++ (numeral ++ (trail ++ [')'])))))

/-- The name that has the words `ws`. -/
def nameOf (ws : List (List Char)) : String :=
  " ".intercalate (ws.map String.ofList)

/-- A parameter in parentheses. -/
def parameterText : Option Nat → List Char
  | none => []
  | some n => '(' :: (Nat.toDigits 10 n ++ [')'])

/-- The type is written in the plain way: its words with one blank between each two, and its
parameter without blanks in one pair of parentheses. -/
def IsPlain (t : ExplicitType) : Prop :=
  ∃ ws, ws ≠ [] ∧ (∀ w ∈ ws, IsTypeWord w) ∧
    t.display.toList = [' '].intercalate ws ++ parameterText t.param

/-! ## Words and numerals -/

/-- Letters by their numbers. -/
theorem isAlpha_iff {c : Char} :
    c.isAlpha = true ↔ 65 ≤ c.toNat ∧ c.toNat ≤ 90 ∨ 97 ≤ c.toNat ∧ c.toNat ≤ 122 := by
  have halpha : c.isAlpha = (c.isUpper || c.isLower) := rfl
  have hupper : c.isUpper = decide (c.val ≥ 'A'.val ∧ c.val ≤ 'Z'.val) := rfl
  have hlower : c.isLower = (decide (c.val ≥ 'a'.val) && decide (c.val ≤ 'z'.val)) := rfl
  rw [halpha, Bool.or_eq_true, hupper, hlower, Bool.and_eq_true, decide_eq_true_eq,
    decide_eq_true_eq, decide_eq_true_eq]
  exact Iff.rfl

theorem isLetter_eq (c : Char) : isLetter c = c.isAlpha := by
  rw [Bool.eq_iff_iff, isAlpha_iff, or_comm]
  simp only [isLetter, Bool.or_eq_true, Bool.and_eq_true, decide_eq_true_eq]
  exact Iff.rfl

theorem isDigit_eq (c : Char) : isDigit c = c.isDigit :=
  rfl

theorem isNameWord_iff {w : List Char} : isNameWord w = true ↔ IsTypeWord w := by
  cases w with
  | nil => exact ⟨by simp [isNameWord], fun h => by cases h⟩
  | cons c cs =>
      have hin : ∀ d, (isLetter d || isDigit d || d == '_') = true ↔
          d.isAlphanum = true ∨ d = '_' := by
        simp [isLetter_eq, isDigit_eq, Char.isAlphanum]
      rw [isNameWord, Bool.and_eq_true, isLetter_eq, List.all_eq_true]
      simp only [hin]
      constructor
      · rintro ⟨hc, hcs⟩
        exact .word hc hcs
      · rintro ⟨hc, hcs⟩
        exact ⟨hc, hcs⟩

theorem toNat_of_isAlphanum {c : Char} (h : c.isAlphanum = true) :
    0x21 ≤ c.toNat ∧ c.toNat < 0x80 := by
  simp only [Char.isAlphanum, Char.isDigit, Bool.or_eq_true, Bool.and_eq_true, decide_eq_true_eq,
    UInt32.le_iff_toNat_le, ge_iff_le, isAlpha_iff] at h
  change (65 ≤ c.toNat ∧ c.toNat ≤ 90 ∨ 97 ≤ c.toNat ∧ c.toNat ≤ 122) ∨
    48 ≤ c.toNat ∧ c.toNat ≤ 57 at h
  omega

/-- A letter or digit is no blank. -/
theorem isBlank_eq_false_of_isAlphanum {c : Char} (h : c.isAlphanum = true) :
    isBlank c = false := by
  have hrange := toNat_of_isAlphanum h
  simp [isBlank]
  omega

theorem IsTypeWord.isAlphanum_or_eq {w : List Char} (h : IsTypeWord w) :
    ∀ c ∈ w, c.isAlphanum = true ∨ c = '_' := by
  obtain ⟨hc, hcs⟩ := h
  exact List.forall_mem_cons.mpr ⟨.inl (by simp [Char.isAlphanum, hc]), hcs⟩

theorem IsTypeWord.isRun {w : List Char} (h : IsTypeWord w) : IsRun w := by
  refine ⟨?_, fun c hc => ?_⟩
  · obtain ⟨-, -⟩ := h
    exact List.cons_ne_nil _ _
  · rcases h.isAlphanum_or_eq c hc with hc | rfl
    · exact isBlank_eq_false_of_isAlphanum hc
    · rfl

/-- The number that digits write, if there are any and it has 32 bits. -/
theorem digits_eq_some_iff {digits : List Char} {n : Nat} :
    (if (digits.isEmpty || !digits.all isDigit) = true then none
      else if ofDigits digits < 0x100000000 then some (ofDigits digits) else none) = some n ↔
      digits ≠ [] ∧ (∀ c ∈ digits, c.isDigit = true) ∧ n = Nat.ofDigitChars 10 digits 0 ∧
        n < 2 ^ 32 := by
  by_cases hgood : digits ≠ [] ∧ ∀ c ∈ digits, c.isDigit = true
  · have hcheck : (digits.isEmpty || !digits.all isDigit) = false := by
      simpa [isDigit_eq] using hgood
    rw [hcheck, if_neg Bool.false_ne_true, and_iff_right hgood.1, and_iff_right hgood.2]
    show (if Nat.ofDigitChars 10 digits 0 < 2 ^ 32 then some (Nat.ofDigitChars 10 digits 0)
      else none) = some n ↔ _
    rw [Option.ite_none_right_eq_some, Option.some.injEq, and_comm, eq_comm]
    exact and_congr_right fun heq => by rw [heq]
  · have hcheck : (digits.isEmpty || !digits.all isDigit) = true := by
      simpa [isDigit_eq, or_iff_not_imp_left] using hgood
    rw [hcheck, if_pos rfl, ← and_assoc]
    exact iff_of_false (by simp) fun h => hgood h.1

theorem IsNumeral.isRun {cs : List Char} {n : Nat} (h : IsNumeral cs n) : IsRun cs := by
  obtain ⟨digits, hcs, hne, hdigits, -, -⟩ := h
  have hsolid : ∀ c ∈ digits, isBlank c = false := fun c hc =>
    isBlank_eq_false_of_isAlphanum (by simp [Char.isAlphanum, hdigits c hc])
  rcases hcs with rfl | rfl
  · exact ⟨hne, hsolid⟩
  · exact .cons rfl hsolid

theorem IsNumeral.not_close_mem {cs : List Char} {n : Nat} (h : IsNumeral cs n) : ')' ∉ cs := by
  obtain ⟨digits, hcs, -, hdigits, -, -⟩ := h
  have hnone : ')' ∉ digits := fun hmem => absurd (hdigits ')' hmem) (by decide)
  rcases hcs with rfl | rfl
  · exact hnone
  · simpa using hnone

theorem parameter?_eq_some_iff {cs : List Char} {n : Nat} :
    parameter? cs = some n ↔ IsNumeral cs n := by
  unfold parameter?
  split
  next cs =>
    refine digits_eq_some_iff.trans ⟨fun h => ⟨cs, .inr rfl, h⟩, ?_⟩
    rintro ⟨digits, rfl | heq, hne, hall, hrest⟩
    · exact absurd (hall '+' List.mem_cons_self) (by decide)
    · obtain rfl := (List.cons.inj heq).2
      exact ⟨hne, hall, hrest⟩
  next hplus =>
    refine digits_eq_some_iff.trans ⟨fun h => ⟨cs, .inl rfl, h⟩, ?_⟩
    rintro ⟨digits, rfl | heq, h⟩
    · exact h
    · exact absurd heq (hplus digits)

/-! ## What the reader finds -/

theorem readName_eq_ok_iff {cs : List Char} {name : String} :
    readName cs = .ok name ↔
      words cs ≠ [] ∧ (∀ w ∈ words cs, IsTypeWord w) ∧ name = nameOf (words cs) := by
  dsimp only [readName]
  by_cases hnone : words cs = []
  · simp [hnone]
  · rw [if_neg (by simpa using hnone), and_iff_right hnone]
    split
    next w hfind =>
      have hw := List.find?_some hfind
      have hmem := List.mem_of_find?_eq_some hfind
      refine iff_of_false (by simp) fun h => ?_
      rw [Bool.not_eq_true', ← Bool.not_eq_true, isNameWord_iff] at hw
      exact hw (h.1 w hmem)
    next hfind =>
      have hall : ∀ w ∈ words cs, IsTypeWord w := fun w hw =>
        isNameWord_iff.mp (by simpa using List.find?_eq_none.mp hfind w hw)
      rw [and_iff_right hall, Except.ok.injEq, eq_comm]
      rfl

/-- A number in parentheses is the one word that stands there. -/
theorem parameter?_trim_eq_some_iff {inner : List Char} {n : Nat} :
    parameter? (trim inner) = some n ↔
      ∃ numeral, words inner = [numeral] ∧ IsNumeral numeral n := by
  rw [parameter?_eq_some_iff]
  constructor
  · intro h
    refine ⟨trim inner, ?_, h⟩
    rw [← words_trim, words_of_isRun h.isRun]
  · rintro ⟨numeral, hwords, h⟩
    rwa [trim_eq_of_words hwords]

theorem readParameter_eq_ok_iff {cs : List Char} {n : Nat} :
    readParameter cs = .ok n ↔
      ∃ inner after numeral, cs = inner ++ ')' :: after ∧ ')' ∉ inner ∧ words inner = [numeral] ∧
        IsNumeral numeral n ∧ 1 ≤ n ∧ IsGap after := by
  unfold readParameter
  by_cases hclose : ')' ∈ cs
  · obtain ⟨inner, after, rfl, hinner⟩ := List.eq_append_cons_of_mem hclose
    obtain ⟨htake, hdrop⟩ := cut_append hinner after
    have hsplit : (∃ inner' after' numeral, inner ++ ')' :: after = inner' ++ ')' :: after' ∧
        ')' ∉ inner' ∧ words inner' = [numeral] ∧ IsNumeral numeral n ∧ 1 ≤ n ∧ IsGap after') ↔
        parameter? (trim inner) = some n ∧ 1 ≤ n ∧ IsGap after := by
      rw [parameter?_trim_eq_some_iff]
      constructor
      · rintro ⟨inner', after', numeral, heq, hinner', hwords, hn, hpos, hafter⟩
        obtain ⟨rfl, rfl⟩ := cut_inj hinner hinner' heq
        exact ⟨⟨numeral, hwords, hn⟩, hpos, hafter⟩
      · rintro ⟨⟨numeral, hwords, hn⟩, hpos, hafter⟩
        exact ⟨inner, after, numeral, rfl, hinner, hwords, hn, hpos, hafter⟩
    simp only [htake, hdrop]
    rw [hsplit]
    by_cases hafter : IsGap after
    · have hall : (!after.all isBlank) = false := by simpa [IsGap] using hafter
      rw [hall, if_neg Bool.false_ne_true]
      rcases parameter? (trim inner) with _ | _ | m
      · simp
      · simp
        omega
      · simpa [hafter] using fun heq : m + 1 = n => by omega
    · have hall : (!after.all isBlank) = true := by simpa [IsGap] using hafter
      rw [hall, if_pos rfl]
      simp [hafter]
  · simp only [(cut_of_not_mem hclose).2]
    refine iff_of_false (by simp) ?_
    rintro ⟨inner, after, numeral, rfl, -⟩
    simp at hclose

/-- What the reader finds in a text: the words before the first parenthesis that opens, and
the number between it and the first one behind it that closes. -/
inductive Reads : List Char → List (List Char) → Option Nat → Prop where
  | name {cs : List Char} (hopen : '(' ∉ cs) : Reads cs (words cs) none
  | parameter {name inner after numeral : List Char} {n : Nat} (hopen : '(' ∉ name)
      (hclose : ')' ∉ inner) (hinner : words inner = [numeral]) (hn : IsNumeral numeral n)
      (hpos : 1 ≤ n) (hafter : IsGap after) :
      Reads (name ++ '(' :: (inner ++ ')' :: after)) (words name) (some n)

theorem parse_eq_ok_iff {text : String} {t : ExplicitType} :
    parse text = .ok t ↔ ∃ ws, Reads (trim text.toList) ws t.param ∧ ws ≠ [] ∧
      (∀ w ∈ ws, IsTypeWord w) ∧ t.name = nameOf ws := by
  unfold parse
  generalize trim text.toList = cs
  obtain ⟨typeName, param⟩ := t
  by_cases hopen : '(' ∈ cs
  · obtain ⟨name, rest, rfl, hname⟩ := List.eq_append_cons_of_mem hopen
    obtain ⟨htake, hdrop⟩ := cut_append hname rest
    simp only [htake, hdrop, bind_eq_ok_iff]
    constructor
    · rintro ⟨param', hparam, name', hread, heq⟩
      obtain ⟨n, hn, rfl⟩ := map_eq_ok_iff.mp hparam
      cases heq
      obtain ⟨inner, after, numeral, rfl, hclose, hinner, hnumeral, hpos, hafter⟩ :=
        readParameter_eq_ok_iff.mp hn
      exact ⟨words name, .parameter hname hclose hinner hnumeral hpos hafter,
        readName_eq_ok_iff.mp hread⟩
    · rintro ⟨ws, hreads, hread⟩
      generalize heq : name ++ '(' :: rest = cs at hreads
      cases hreads with
      | name hnone => exact absurd (heq ▸ hopen) hnone
      | @parameter name' inner after numeral n hname' hclose hinner hn hpos hafter =>
          obtain ⟨rfl, rfl⟩ := cut_inj hname hname' heq
          have hparam : readParameter (inner ++ ')' :: after) = .ok n :=
            readParameter_eq_ok_iff.mpr
              ⟨inner, after, numeral, rfl, hclose, hinner, hn, hpos, hafter⟩
          exact ⟨some n, map_eq_ok_iff.mpr ⟨n, hparam, rfl⟩, typeName,
            readName_eq_ok_iff.mpr hread, rfl⟩
  · obtain ⟨htake, hdrop⟩ := cut_of_not_mem hopen
    simp only [htake, hdrop, bind_eq_ok_iff]
    constructor
    · rintro ⟨param', hparam, name', hread, heq⟩
      cases hparam
      cases heq
      exact ⟨words cs, .name hopen, readName_eq_ok_iff.mp hread⟩
    · rintro ⟨ws, hreads, hread⟩
      cases hreads with
      | name => exact ⟨none, rfl, typeName, readName_eq_ok_iff.mpr hread, rfl⟩
      | parameter => simp at hopen

/-- Blanks may stand for others, and at the ends for nothing. -/
theorem Reads.respace {cs ds gap gap' : List Char} {ws : List (List Char)} {param : Option Nat}
    (hgap : IsGap gap) (hgap' : IsGap gap') (hjoin : (gap = [] ↔ gap' = []) ∨ cs = [] ∨ ds = [])
    (h : Reads (cs ++ (gap ++ ds)) ws param) : Reads (cs ++ (gap' ++ ds)) ws param := by
  have hno {c : Char} {run : List Char} (hc : isBlank c = false) (hrun : IsGap run) : c ∉ run :=
    fun hmem => by simp [hrun c hmem] at hc
  have hopen {run : List Char} (hrun : IsGap run) : '(' ∉ run := hno rfl hrun
  have hclose {run : List Char} (hrun : IsGap run) : ')' ∉ run := hno rfl hrun
  generalize htext : cs ++ (gap ++ ds) = text at h
  cases h with
  | name hnone =>
      subst htext
      rw [words_respace hgap hgap' hjoin]
      exact .name (by simpa [hopen hgap, hopen hgap'] using hnone)
  | @parameter name inner after numeral n hname hinner hwords hn hpos hafter =>
      rcases exists_side (hopen hgap) htext with ⟨m, rfl, hright⟩ | ⟨m, rfl, rfl⟩
      · rcases exists_side (hclose hgap) hright.symm with ⟨m', rfl, rfl⟩ | ⟨m', rfl, rfl⟩
        · -- The blanks stand behind the parameter.
          rw [isGap_append_iff, isGap_append_iff] at hafter
          have hafter' : IsGap (m' ++ (gap' ++ ds)) :=
            isGap_append_iff.mpr ⟨hafter.1, isGap_append_iff.mpr ⟨hgap', hafter.2.2⟩⟩
          simpa using Reads.parameter hname hinner hwords hn hpos hafter'
        · -- The blanks stand beside the parameter.
          have hboth : gap = [] ↔ gap' = [] := by simpa using hjoin
          rw [words_respace hgap hgap' (.inl hboth)] at hwords
          have hinner' : ')' ∉ m ++ (gap' ++ m') := by
            simpa [hclose hgap, hclose hgap'] using hinner
          simpa using Reads.parameter hname hinner' hwords hn hpos hafter
      · -- The blanks stand in the name.
        have hjoin' : (gap = [] ↔ gap' = []) ∨ cs = [] ∨ m = [] := by
          rcases hjoin with hboth | hnone | hnone
          · exact .inl hboth
          · exact .inr (.inl hnone)
          · simp at hnone
        rw [words_respace hgap hgap' hjoin']
        have hname' : '(' ∉ cs ++ (gap' ++ m) := by
          simpa [hopen hgap, hopen hgap'] using hname
        simpa using Reads.parameter hname' hinner hwords hn hpos hafter

theorem reads_trim_iff {cs : List Char} {ws : List (List Char)} {param : Option Nat} :
    Reads (trim cs) ws param ↔ Reads cs ws param := by
  obtain ⟨lead, trail, hlead, htrail, heq, -⟩ := exists_trim cs
  have hback {back : List Char} : Reads (back ++ (trail ++ [])) ws param ↔
      Reads (back ++ ([] ++ [])) ws param :=
    ⟨.respace htrail isGap_nil (.inr (.inr rfl)), .respace isGap_nil htrail (.inr (.inr rfl))⟩
  have hfront : Reads ([] ++ (lead ++ (trim cs ++ trail))) ws param ↔
      Reads ([] ++ ([] ++ (trim cs ++ trail))) ws param :=
    ⟨.respace hlead isGap_nil (.inr (.inl rfl)), .respace isGap_nil hlead (.inr (.inl rfl))⟩
  conv_rhs => rw [heq]
  simp only [List.append_nil, List.nil_append] at hback hfront
  exact (hfront.trans hback).symm

/-! ## What the grammar allows -/

namespace Writes

variable {ws : List (List Char)} {param : Option Nat} {cs : List Char}

/-- A text of the grammar has no blanks at its ends. -/
theorem isTight (h : Writes ws param cs) : IsTight cs := by
  cases h with
  | name _ hname => exact hname.isTight
  | @parameter name gap lead numeral trail n _ hname =>
      have hend : name ++ (gap ++ '(' :: (lead ++ (numeral ++ (trail ++ [')'])))) =
          (name ++ (gap ++ '(' :: (lead ++ (numeral ++ trail)))) ++ [')'] := by simp
      constructor
      · rw [List.head?_append_of_ne_nil _ hname.ne_nil]
        exact hname.isTight.head
      · rw [hend, List.getLast?_concat]
        rintro c ⟨⟩
        rfl

/-- A text of the grammar is read as the words and the number that it has. -/
theorem reads (h : Writes ws param cs) :
    Reads cs ws param ∧ ws ≠ [] ∧ ∀ w ∈ ws, IsTypeWord w := by
  have hopen {name : List Char} (hwords : ∀ w ∈ ws, IsTypeWord w) (hname : Spaced ws name) :
      '(' ∉ name := by
    intro hmem
    obtain ⟨w, hw, hc⟩ := hname.exists_mem hmem rfl
    rcases (hwords w hw).isAlphanum_or_eq _ hc with hletter | heq
    · exact absurd hletter (by decide)
    · exact absurd heq (by decide)
  have hsome {name : List Char} (hname : Spaced ws name) : ws ≠ [] := by
    rintro rfl
    cases hname
  cases h with
  | name hwords hname =>
      have hreads := Reads.name (hopen hwords hname)
      rw [hname.words_eq] at hreads
      exact ⟨hreads, hsome hname, hwords⟩
  | @parameter name gap lead numeral trail n hwords hname hgap hlead htrail hn hpos =>
      have hname' : '(' ∉ name ++ gap := by
        simpa [hopen hwords hname] using fun hmem => absurd (hgap '(' hmem) (by decide)
      have hclose : ')' ∉ lead ++ (numeral ++ trail) := by
        have hlead' : ')' ∉ lead := fun hmem => absurd (hlead ')' hmem) (by decide)
        have htrail' : ')' ∉ trail := fun hmem => absurd (htrail ')' hmem) (by decide)
        simpa [hlead', htrail'] using hn.not_close_mem
      have hinner : words (lead ++ (numeral ++ trail)) = [numeral] := by
        rw [words_gap_append hlead, words_append_gap htrail, words_of_isRun hn.isRun]
      have hreads := Reads.parameter hname' hclose hinner hn hpos isGap_nil
      rw [words_append_gap hgap, hname.words_eq] at hreads
      refine ⟨by simpa using hreads, hsome hname, hwords⟩

end Writes

/-- What is read in a text without blanks at its ends is what the grammar says. -/
theorem writes_iff {ws : List (List Char)} {param : Option Nat} {cs : List Char} (h : IsTight cs) :
    Writes ws param cs ↔ Reads cs ws param ∧ ws ≠ [] ∧ ∀ w ∈ ws, IsTypeWord w := by
  refine ⟨Writes.reads, ?_⟩
  rintro ⟨hreads, hne, hwords⟩
  cases hreads with
  | name =>
      have hcs : cs ≠ [] := by
        rintro rfl
        exact hne rfl
      exact .name hwords (h.spaced hcs)
  | @parameter name inner after numeral n hopen hclose hinner hn hpos hafter =>
      have hnoafter : after = [] := by
        have hend : name ++ '(' :: (inner ++ ')' :: after) =
            (name ++ '(' :: (inner ++ [')'])) ++ after := by simp
        rw [hend] at h
        exact h.eq_nil_of_append_gap hafter
      obtain ⟨before, body, gap, hbefore, hgap, heq, hbody⟩ := exists_spaced_words hne
      have hnobefore : before = [] := by
        rw [heq, List.append_assoc] at h
        exact h.eq_nil_of_gap_append hbefore
      obtain ⟨lead, trail, hlead, htrail, hinnereq, -⟩ := exists_trim inner
      rw [trim_eq_of_words hinner] at hinnereq
      have hwrites := Writes.parameter hwords hbody hgap hlead htrail hn hpos
      rw [hnobefore, List.nil_append] at heq
      rw [hnoafter]
      conv => arg 3; rw [heq, hinnereq]
      simpa using hwrites

/-- Accepted are the texts of the grammar. -/
theorem parse_eq_ok_iff_writes {text : String} {t : ExplicitType} :
    parse text = .ok t ↔ ∃ ws, Writes ws t.param (trim text.toList) ∧ t.name = nameOf ws := by
  obtain ⟨-, -, -, -, -, htight⟩ := exists_trim text.toList
  simp only [parse_eq_ok_iff, writes_iff htight, and_assoc]

/-! ## The plain way -/

theorem toList_nameOf (ws : List (List Char)) : (nameOf ws).toList = [' '].intercalate ws := by
  rw [nameOf, String.toList_intercalate, List.map_map]
  simp [Function.comp_def]

theorem toList_display (t : ExplicitType) :
    t.display.toList = t.name.toList ++ parameterText t.param := by
  obtain ⟨name, _ | n⟩ := t
  · exact (List.append_nil _).symm
  · simp [display, parameterText, toString, String.toList_append, Nat.toList_repr]

theorem isNumeral_toDigits {n : Nat} (h : n < 2 ^ 32) : IsNumeral (Nat.toDigits 10 n) n :=
  ⟨Nat.toDigits 10 n, .inl rfl, Nat.toDigits_ne_nil,
    fun _ hc => Nat.isDigit_of_mem_toDigits (by decide) (by decide) hc,
    Nat.ofDigitChars_ten_toDigits.symm, h⟩

/-- The plain way is one of those that the grammar has. -/
theorem Writes.plain {ws : List (List Char)} {param : Option Nat} {cs : List Char}
    (h : Writes ws param cs) : Writes ws param ([' '].intercalate ws ++ parameterText param) := by
  obtain ⟨-, hne, hwords⟩ := h.reads
  have hname : Spaced ws ([' '].intercalate ws) :=
    .intercalate (fun w hw => (hwords w hw).isRun) hne
  cases h with
  | name => simpa [parameterText] using Writes.name hwords hname
  | parameter _ _ _ _ _ hn hpos =>
      obtain ⟨-, -, -, -, -, hbound⟩ := hn
      simpa [parameterText] using Writes.parameter hwords hname isGap_nil isGap_nil isGap_nil
        (isNumeral_toDigits hbound) hpos

theorem isPlain_of_parse {text : String} {t : ExplicitType} (h : parse text = .ok t) :
    t.IsPlain ∧ parse t.display = .ok t := by
  obtain ⟨ws, hwrites, hname⟩ := parse_eq_ok_iff_writes.mp h
  have hdisplay : t.display.toList = [' '].intercalate ws ++ parameterText t.param := by
    rw [toList_display, hname, toList_nameOf]
  obtain ⟨-, hne, hwords⟩ := hwrites.reads
  refine ⟨⟨ws, hne, hwords, hdisplay⟩, parse_eq_ok_iff_writes.mpr ⟨ws, ?_, hname⟩⟩
  rw [hdisplay, hwrites.plain.isTight.trim_eq]
  exact hwrites.plain

/-- The plain way has letters and digits, low lines, blanks of one kind and parentheses only. -/
theorem IsPlain.mem_display {t : ExplicitType} (h : t.IsPlain) {c : Char}
    (hc : c ∈ t.display.toList) : c.isAlphanum = true ∨ c ∈ ['_', ' ', '(', ')'] := by
  obtain ⟨ws, -, hwords, hdisplay⟩ := h
  rw [hdisplay, List.mem_append] at hc
  rcases hc with hname | hparam
  · rcases eq_or_mem_of_mem_intercalate hname with hblank | ⟨w, hw, hc⟩
    · simp [List.mem_singleton.mp hblank]
    · exact ((hwords w hw).isAlphanum_or_eq c hc).imp_right fun heq => by simp [heq]
  · cases hnumber : t.param with
    | none =>
        rw [hnumber] at hparam
        cases hparam
    | some n =>
        simp only [hnumber, parameterText, List.mem_cons, List.mem_append, List.not_mem_nil,
          or_false] at hparam
        rcases hparam with rfl | hdigit | rfl
        · simp
        · have hdigit := Nat.isDigit_of_mem_toDigits (by decide) (by decide) hdigit
          exact .inl (by simp [Char.isAlphanum, hdigit])
        · simp

/-- Blanks of one kind and number are read as those of another. -/
theorem parse_respace {before run run' after : String} (hrun : isBlankText run = true)
    (hrun' : isBlankText run' = true) (hne : run ≠ "") (hne' : run' ≠ "") {t : ExplicitType}
    (h : parse (before ++ run ++ after) = .ok t) : parse (before ++ run' ++ after) = .ok t := by
  have hgap : IsGap run.toList := List.all_eq_true.mp hrun
  have hgap' : IsGap run'.toList := List.all_eq_true.mp hrun'
  have hboth : run.toList = [] ↔ run'.toList = [] := by simp [hne, hne']
  simp only [parse_eq_ok_iff, reads_trim_iff, String.toList_append, List.append_assoc] at h ⊢
  obtain ⟨ws, hreads, hrest⟩ := h
  exact ⟨ws, hreads.respace hgap hgap' (.inl hboth), hrest⟩

/-- A text is a column type exactly when, without the blanks at its ends, it is in the grammar:
words with blanks between them, each a letter and then letters, digits and low lines, and perhaps
a positive number of 32 bits in parentheses behind them. The type that is read is written in the
plain way, and is read from that again. Blanks that stand for other blanks change neither whether
the text is accepted nor what is read. -/
theorem parse_exact (text : String) :
    (∀ t, parse text = .ok t ↔
      ∃ ws, Writes ws t.param (trim text.toList) ∧ t.name = nameOf ws) ∧
    (∀ t, parse text = .ok t → t.IsPlain ∧ parse t.display = .ok t) ∧
    ∀ before run run' after, text = before ++ run ++ after → isBlankText run = true →
      isBlankText run' = true → run ≠ "" → run' ≠ "" →
        ∀ t, parse (before ++ run' ++ after) = .ok t ↔ parse text = .ok t := by
  refine ⟨fun t => parse_eq_ok_iff_writes, fun t h => isPlain_of_parse h, ?_⟩
  rintro before run run' after rfl hrun hrun' hne hne' t
  exact ⟨parse_respace hrun' hrun hne' hne, parse_respace hrun hrun' hne hne'⟩

theorem parse_exact_national :
    parse "national\tcharacter ( +07 )" = .ok ⟨"national character", some 7⟩ ∧
      (⟨"national character", some 7⟩ : ExplicitType).display = "national character(7)" ∧
      parse "national character(7)" = .ok ⟨"national character", some 7⟩ ∧
      parse "national\u2003 character ( +07 )" = .ok ⟨"national character", some 7⟩ := by
  have hparse : parse "national\tcharacter ( +07 )" = .ok ⟨"national character", some 7⟩ :=
    eq_ok_of_toOption (by decide +kernel)
  obtain ⟨-, hplain, hrespace⟩ := parse_exact "national\tcharacter ( +07 )"
  exact ⟨hparse, by decide +kernel, (hplain _ hparse).2,
    (hrespace "national" "\t" "\u2003 " "character ( +07 )" (by decide +kernel) (by decide +kernel)
      (by decide +kernel) (by decide +kernel) (by decide +kernel) _).mpr hparse⟩

end ExplicitType

end Rowsmith
