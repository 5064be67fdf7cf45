/-
# The letters of a snake-case name

A letter or number stays one when it is changed to lower case, with one exception: the
dotted capital I becomes a small one and a combining dot, which is neither. So a
snake-case name is made of letters, numbers and underscores exactly when there is no
dotted capital I in the name.
-/

import Rowsmith.Proofs.Text.Words

namespace Rowsmith.Text

open CodePoints

/-! ## Lower-case forms -/

/-- The capital I with a dot. -/
def dottedI : Char :=
  'İ'

/-- What the tables of letters and of lower-case forms have to do with each other, and which of the
characters that no run changes are letters. -/
@[mk_iff]
structure LettersAgree : Prop where
  ascend : ascends 0 alphanumericRuns.bounds.toList = true
  forms : coversAll alphanumericRuns.bounds.toList
    (((lowercaseForms.map formsOf).filter fun r => 0x80 ≤ r.1).insertionSort
      fun a b => a.1 ≤ b.1) = true
  finalSigma : isAlphanumeric 'ς' = true
  dotted : isAlphanumeric dottedI = true
  dot : isAlphanumeric (Char.ofNat 0x307) = false

theorem lettersAgree : LettersAgree := by
  rw [lettersAgree_iff]
  decide +kernel

theorem isSorted_alphanumericRuns : alphanumericRuns.IsSorted :=
  isSorted_of_ascends lettersAgree.ascend

theorem isAlphanumeric_toLower {c : Char} (hascii : c.toNat < 0x80) (h : c.isAlphanum = true) :
    isAlphanumeric c.toLower = true := by
  have hall : ∀ n : Fin 0x80, (Char.ofNat n).isAlphanum = true →
      isAlphanumeric (Char.ofNat n).toLower = true := by
    decide
  simpa using hall ⟨c.toNat, hascii⟩ (by simpa using h)

/-- A letter or number stays one in lower case, but for the dotted capital I. -/
theorem isAlphanumeric_of_mem_lowercase {c d : Char} (hc : isAlphanumeric c = true)
    (hdotted : c ≠ dottedI) (hd : d ∈ lowercase c) : isAlphanumeric d = true := by
  unfold lowercase at hd
  split at hd
  next hascii =>
    obtain rfl := List.mem_singleton.mp hd
    exact isAlphanumeric_toLower hascii (by simpa [isAlphanumeric, hascii] using hc)
  next hhigh =>
    split at hd
    next heq => exact absurd (Char.toNat_inj.mp (heq.trans rfl)) hdotted
    next =>
      obtain rfl := List.mem_singleton.mp hd
      rcases lowercaseForm_cases c.toNat lowercaseForms with hsame | ⟨run, hrun, hform, heq⟩
      · rwa [hsame, Char.ofNat_toNat]
      · obtain ⟨hcode, hlower⟩ :=
          ofNat_lowercaseForm (n := c.toNat) ⟨c.valid, .inr (Nat.not_lt.mp hhigh)⟩
        have hkind := List.all_eq_true.mp all_isNameRun_lowercaseForms run hrun
        rw [isAlphanumeric, hcode]
        by_cases hascii : lowercaseForm c.toNat lowercaseForms < 0x80
        · rw [if_pos hascii]
          exact Bool.or_eq_true_iff.mpr (.inl (Bool.or_eq_true_iff.mpr (.inr (hlower hascii))))
        · rw [if_neg hascii, heq]
          exact isSorted_alphanumericRuns.contains_form lettersAgree.forms hrun hform
            (form_ge_of_hasForm hkind hform (by omega))

/-- The dotted capital I does not stay a letter. -/
theorem exists_mem_lowercase_dottedI :
    ∃ d ∈ lowercase dottedI, isAlphanumeric d = false ∧ d ≠ '_' :=
  ⟨Char.ofNat 0x307, by simp [lowercase, dottedI], lettersAgree.dot, by decide⟩

/-! ## Names -/

theorem mem_lowercaseWord_of_mem {word : List Char} {c d : Char} (hc : c ∈ word)
    (hsigma : c ≠ 'Σ') (hd : d ∈ lowercase c) : d ∈ lowercaseWord word := by
  fun_induction lowercaseWord word with
  | case1 => cases hc
  | case2 => exact absurd (List.mem_singleton.mp hc) hsigma
  | case3 c' cs _ ih =>
      rcases List.mem_cons.mp hc with rfl | hc
      · exact List.mem_append_left _ hd
      · exact List.mem_append_right _ (ih hc)

theorem isAlphanumeric_of_mem_lowercaseWord {word : List Char}
    (h : ∀ c ∈ word, isAlphanumeric c = true) (hdotted : dottedI ∉ word) :
    ∀ d ∈ lowercaseWord word, isAlphanumeric d = true := by
  intro d hd
  fun_induction lowercaseWord word with
  | case1 => cases hd
  | case2 =>
      rw [List.mem_singleton.mp hd]
      exact lettersAgree.finalSigma
  | case3 c cs _ ih =>
      rcases List.mem_append.mp hd with hd | hd
      · exact isAlphanumeric_of_mem_lowercase (h c List.mem_cons_self)
          (fun heq => hdotted (heq ▸ List.mem_cons_self)) hd
      · exact ih (fun c hc => h c (List.mem_cons_of_mem _ hc))
          (fun hmem => hdotted (List.mem_cons_of_mem _ hmem)) hd

/-- A snake-case form is made of letters, numbers and underscores exactly when no dotted
capital I is in the name. -/
theorem alphanumeric_snakeCase_iff {name : String} :
    (∀ d ∈ (snakeCase name).toList, isAlphanumeric d = true ∨ d = '_') ↔
      dottedI ∉ name.toList := by
  rw [forall_mem_snakeCase_iff (.inr rfl)]
  constructor
  · intro h hmem
    obtain ⟨d, hd, hnot, hunderscore⟩ := exists_mem_lowercase_dottedI
    have hword : dottedI ∈ (nameWords name.toList).flatten := by
      rw [flatten_nameWords]
      exact List.mem_filter.mpr ⟨hmem, lettersAgree.dotted⟩
    obtain ⟨w, hw, hc⟩ := List.mem_flatten.mp hword
    rcases h w hw d (mem_lowercaseWord_of_mem hc (by decide) hd) with hd | hd
    · rw [hnot] at hd
      cases hd
    · exact hunderscore hd
  · intro h w hw d hd
    refine .inl (isAlphanumeric_of_mem_lowercaseWord
      (fun c hc => isAlphanumeric_of_mem_nameWords hw hc) (fun hc => ?_) d hd)
    exact h (mem_of_mem_nameWords hw hc)

end Rowsmith.Text
