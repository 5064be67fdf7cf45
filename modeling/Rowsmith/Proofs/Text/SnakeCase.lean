/-
# The characters of a snake-case name

Names of tables and columns are spliced into statements as they are. Whatever
the name of a field is, its snake-case form consists of lower-case letters,
digits, underscores and characters above U+007F. In particular it has no
character that separates the parts of a statement.
-/

import Rowsmith.Text.SnakeCase

namespace Rowsmith.Text

/-- Whether `c` may be in a snake-case name. -/
def isNamePart (c : Char) : Bool :=
  c == '_' || c.isDigit || c.isLower || 0x80 ≤ c.toNat

/-! ## Lower-case forms -/

theorem isLower_iff_toNat {c : Char} : c.isLower = true ↔ 97 ≤ c.toNat ∧ c.toNat ≤ 122 := by
  show (decide (c.val ≥ 'a'.val) && decide (c.val ≤ 'z'.val)) = true ↔ _
  simp [UInt32.le_iff_toNat_le, ← Char.toNat_val]

/-- The code point `n` is that of a character that may be in a name. -/
def IsNameCode (n : Nat) : Prop :=
  n.isValidChar ∧ (97 ≤ n ∧ n ≤ 122 ∨ 0x80 ≤ n)

theorem isNamePart_ofNat {n : Nat} (h : IsNameCode n) : isNamePart (Char.ofNat n) = true := by
  obtain ⟨hvalid, hrange⟩ := h
  have hcode : (Char.ofNat n).toNat = n := by
    rw [Char.ofNat, dif_pos hvalid]
    rfl
  simp only [isNamePart, hcode, Bool.or_eq_true, decide_eq_true_eq]
  rcases hrange with hletter | hhigh
  · exact .inl (.inr (isLower_iff_toNat.mpr (hcode.symm ▸ hletter)))
  · exact .inr hhigh

/-- Whether the forms that a run gives are letters, or lie above U+007F and on
one side of the surrogates. -/
def isNameRun (run : Nat × Nat × Nat × Nat) : Bool :=
  let (first, last, _, form) := run
  97 ≤ form && form + (last - first) ≤ 122 ||
    0x80 ≤ form && form + (last - first) < 0xD800 ||
    0xE000 ≤ form && form + (last - first) < 0x110000

theorem all_isNameRun_lowercaseForms : lowercaseForms.all isNameRun = true := by
  decide +kernel

/-- A table of such runs keeps characters that may be in a name. -/
theorem isNameCode_lowercaseForm {n : Nat} {runs : List (Nat × Nat × Nat × Nat)}
    (hn : IsNameCode n) (hruns : runs.all isNameRun = true) :
    IsNameCode (lowercaseForm n runs) := by
  induction runs with
  | nil => exact hn
  | cons run runs ih =>
      obtain ⟨first, last, step, form⟩ := run
      rw [List.all_cons, Bool.and_eq_true] at hruns
      rw [lowercaseForm]
      split
      next hhit =>
        have hrun := hruns.1
        simp only [Bool.and_eq_true, decide_eq_true_eq] at hhit
        simp only [isNameRun, Bool.or_eq_true, Bool.and_eq_true, decide_eq_true_eq] at hrun
        constructor
        · rw [Nat.isValidChar]
          omega
        · omega
      next => exact ih hruns.2

/-- The lower-case form of an ASCII letter or digit may be in a name. -/
theorem isNamePart_toLower {c : Char} (hascii : c.toNat < 0x80) (hc : c.isAlphanum = true) :
    isNamePart c.toLower = true := by
  have hall : ∀ n : Fin 0x80, (Char.ofNat n).isAlphanum = true →
      isNamePart (Char.ofNat n).toLower = true := by
    decide
  simpa using hall ⟨c.toNat, hascii⟩ (by simpa using hc)

theorem isNamePart_of_mem_lowercase {c d : Char} (hc : isAlphanumeric c = true)
    (hd : d ∈ lowercase c) : isNamePart d = true := by
  unfold lowercase at hd
  split at hd
  next hascii =>
    obtain rfl := List.mem_singleton.mp hd
    exact isNamePart_toLower hascii (by simpa [isAlphanumeric, hascii] using hc)
  next hhigh =>
    split at hd
    next =>
      have hforms : ['i', Char.ofNat 0x307].all isNamePart = true := by decide
      exact List.all_eq_true.mp hforms d hd
    next =>
      obtain rfl := List.mem_singleton.mp hd
      have hcode : IsNameCode c.toNat := ⟨c.valid, .inr (by omega)⟩
      exact isNamePart_ofNat (isNameCode_lowercaseForm hcode all_isNameRun_lowercaseForms)

/-! ## Words -/

theorem mem_of_mem_runsBetween {split : Char → Bool} {word cs run : List Char} {c : Char}
    (hrun : run ∈ runsBetween split word cs) (hc : c ∈ run) : c ∈ word ∨ split c = false := by
  fun_induction runsBetween split word cs with
  | case1 word hempty => cases hrun
  | case2 word hsome =>
      obtain rfl := List.mem_singleton.mp hrun
      exact .inl (List.mem_reverse.mp hc)
  | case3 word d cs hsplit hempty ih =>
      exact .inr ((ih hrun).resolve_left List.not_mem_nil)
  | case4 word d cs hsplit hsome ih =>
      rcases List.mem_cons.mp hrun with rfl | hrun
      · exact .inl (List.mem_reverse.mp hc)
      · exact .inr ((ih hrun).resolve_left List.not_mem_nil)
  | case5 word d cs hsplit ih =>
      rcases ih hrun with hword | hc
      · rcases List.mem_cons.mp hword with rfl | hword
        · exact .inr (by simpa using hsplit)
        · exact .inl hword
      · exact .inr hc

theorem mem_of_mem_cutWords {case : WordCase} {word cs w : List Char} {c : Char}
    (hw : w ∈ cutWords case word cs) (hc : c ∈ w) : c ∈ word ∨ c ∈ cs := by
  fun_induction cutWords case word cs with
  | case1 case word hempty => cases hw
  | case2 case word hsome =>
      obtain rfl := List.mem_singleton.mp hw
      exact .inl (List.mem_reverse.mp hc)
  | case3 case word d =>
      obtain rfl := List.mem_singleton.mp hw
      simpa [or_comm] using hc
  | case4 case word d next rest hcut ih =>
      rcases List.mem_cons.mp hw with rfl | hw
      · rcases List.mem_cons.mp (List.mem_reverse.mp hc) with rfl | hword
        · exact .inr List.mem_cons_self
        · exact .inl hword
      · exact .inr (List.mem_cons_of_mem _ ((ih hw).resolve_left List.not_mem_nil))
  | case5 case word d next rest hcut hcut' ih =>
      rcases List.mem_cons.mp hw with rfl | hw
      · exact .inl (List.mem_reverse.mp hc)
      · rcases ih hw with hd | hrest
        · exact .inr (List.mem_cons.mpr (.inl (List.mem_singleton.mp hd)))
        · exact .inr (List.mem_cons_of_mem _ hrest)
  | case6 case word d next rest hcut hcut' ih =>
      rcases ih hw with hword | hrest
      · rcases List.mem_cons.mp hword with rfl | hword
        · exact .inr List.mem_cons_self
        · exact .inl hword
      · exact .inr (List.mem_cons_of_mem _ hrest)

theorem isAlphanumeric_of_mem_nameWords {cs w : List Char} {c : Char} (hw : w ∈ nameWords cs)
    (hc : c ∈ w) : isAlphanumeric c = true := by
  obtain ⟨run, hrun, hw⟩ := List.mem_flatMap.mp hw
  have hmem := (mem_of_mem_cutWords hw hc).resolve_left List.not_mem_nil
  simpa using (mem_of_mem_runsBetween hrun hmem).resolve_left List.not_mem_nil

theorem isNamePart_of_mem_lowercaseWord {word : List Char} {d : Char}
    (hword : ∀ c ∈ word, isAlphanumeric c = true) (hd : d ∈ lowercaseWord word) :
    isNamePart d = true := by
  fun_induction lowercaseWord word with
  | case1 => cases hd
  | case2 =>
      obtain rfl := List.mem_singleton.mp hd
      decide
  | case3 c cs _ ih =>
      rcases List.mem_append.mp hd with hd | hd
      · exact isNamePart_of_mem_lowercase (hword c List.mem_cons_self) hd
      · exact ih (fun c hc => hword c (List.mem_cons_of_mem _ hc)) hd

/-! ## Names -/

theorem eq_or_mem_of_mem_intercalate {α : Type} {sep : List α} {parts : List (List α)} {a : α}
    (ha : a ∈ sep.intercalate parts) : a ∈ sep ∨ ∃ part ∈ parts, a ∈ part := by
  induction parts with
  | nil => cases ha
  | cons part parts ih =>
      cases parts with
      | nil => exact .inr ⟨part, List.mem_cons_self, by simpa using ha⟩
      | cons next rest =>
          rw [List.intercalate_cons_cons, List.append_assoc, List.mem_append,
            List.mem_append] at ha
          rcases ha with ha | ha | ha
          · exact .inr ⟨part, List.mem_cons_self, ha⟩
          · exact .inl ha
          · exact (ih ha).imp_right fun ⟨p, hp, hap⟩ => ⟨p, List.mem_cons_of_mem _ hp, hap⟩

theorem mem_intercalate_of_mem {α : Type} {sep part : List α} {parts : List (List α)} {a : α}
    (hpart : part ∈ parts) (ha : a ∈ part) : a ∈ sep.intercalate parts := by
  induction parts with
  | nil => cases hpart
  | cons first parts ih =>
      cases parts with
      | nil => simpa [List.mem_singleton.mp hpart] using ha
      | cons second rest =>
          rw [List.intercalate_cons_cons, List.append_assoc]
          rcases List.mem_cons.mp hpart with rfl | hpart
          · exact List.mem_append_left _ ha
          · exact List.mem_append_right _ (List.mem_append_right _ (ih hpart))

/-- The characters of a snake-case form are the underscores between words and those of the
words. -/
theorem forall_mem_snakeCase_iff {name : String} {p : Char → Prop} (hp : p '_') :
    (∀ d ∈ (snakeCase name).toList, p d) ↔
      ∀ w ∈ nameWords name.toList, ∀ d ∈ lowercaseWord w, p d := by
  rw [snakeCase, String.toList_intercalate]
  constructor
  · intro h w hw d hd
    have hpart : lowercaseWord w ∈ ((nameWords name.toList).map fun word =>
        String.ofList (lowercaseWord word)).map String.toList := by
      simpa using ⟨w, hw, rfl⟩
    exact h d (mem_intercalate_of_mem hpart hd)
  · intro h d hd
    rcases eq_or_mem_of_mem_intercalate hd with hd | ⟨part, hpart, hd⟩
    · obtain rfl : d = '_' := by simpa using hd
      exact hp
    · obtain ⟨w, hw, rfl⟩ : ∃ w ∈ nameWords name.toList, lowercaseWord w = part := by
        simpa using hpart
      exact h w hw d hd

/-- Every character of `s` may be in a snake-case name. -/
def IsName (s : String) : Prop :=
  ∀ c ∈ s.toList, isNamePart c = true

/-- A name of letters, digits and underscores, of any script. -/
structure IsWordName (s : String) : Prop where
  ne_empty : s ≠ ""
  part : ∀ c ∈ s.toList, isAlphanumeric c = true ∨ c = '_'

theorem isWordName_iff {s : String} :
    IsWordName s ↔ s ≠ "" ∧ s.toList.all (fun c => isAlphanumeric c || c == '_') = true := by
  simp only [List.all_eq_true, Bool.or_eq_true, beq_iff_eq]
  exact ⟨fun h => ⟨h.ne_empty, h.part⟩, fun h => ⟨h.1, h.2⟩⟩

instance (s : String) : Decidable (IsWordName s) :=
  decidable_of_iff _ isWordName_iff.symm

theorem isName_snakeCase (name : String) : IsName (snakeCase name) :=
  (forall_mem_snakeCase_iff (by decide)).mpr fun _ hw _ hd =>
    isNamePart_of_mem_lowercaseWord (fun _ hc => isAlphanumeric_of_mem_nameWords hw hc) hd

theorem IsName.not_mem {s : String} {c : Char} (h : IsName s) (hc : isNamePart c = false) :
    c ∉ s.toList := by
  intro hmem
  rw [h c hmem] at hc
  cases hc

end Rowsmith.Text
