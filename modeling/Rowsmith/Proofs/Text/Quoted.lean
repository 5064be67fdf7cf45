/-
# Quoted texts denote their texts

The reader of string literals undoes `quoted`: every character is read back from
its escape, the ones that are written by their number included. What is written
shows as it is: every character of it is visible, so no line ends in it, and no
quote but the last one ends the literal.
-/

import Rowsmith.Source.Literal
import Rowsmith.Text.Quoted

namespace Rowsmith

open Source Text

namespace Text

/-! ## Numbers in escapes -/

theorem hexDigit?_digitChar {d : Nat} (h : d < 16) :
    Literal.hexDigit? (Nat.digitChar d) = some d := by
  have hall : ∀ d : Fin 16, Literal.hexDigit? (Nat.digitChar d) = some d.val := by decide
  exact hall ⟨d, h⟩

theorem exists_digitChar_of_mem_toDigits {n : Nat} {c : Char} (h : c ∈ Nat.toDigits 16 n) :
    ∃ d : Fin 16, c = Nat.digitChar d := by
  induction n using Nat.strongRecOn with
  | ind n ih =>
      rw [Nat.toDigits_eq_if (by decide)] at h
      split at h
      next hn => exact ⟨⟨n, hn⟩, List.mem_singleton.mp h⟩
      next hn =>
        rcases List.mem_append.mp h with h | h
        · exact ih (n / 16) (by omega) h
        · exact ⟨⟨n % 16, by omega⟩, List.mem_singleton.mp h⟩

theorem isSome_hexDigit?_of_mem_toDigits {n : Nat} {c : Char} (h : c ∈ Nat.toDigits 16 n) :
    (Literal.hexDigit? c).isSome = true := by
  obtain ⟨d, rfl⟩ := exists_digitChar_of_mem_toDigits h
  rw [hexDigit?_digitChar d.isLt, Option.isSome_some]

theorem numberEscape?_digitChar {count value d : Nat} {rest : List Char} (hcount : count < 6)
    (hd : d < 16) :
    Literal.numberEscape? count value (Nat.digitChar d :: rest) =
      Literal.numberEscape? (count + 1) (16 * value + d) rest := by
  rw [Literal.numberEscape?, hexDigit?_digitChar hd]
  simp only [Nat.ne_of_lt hcount, if_false]

/-- The digits of a number are read as the number. -/
theorem numberEscape?_toDigits (n : Nat) {rest : List Char}
    (hlength : (Nat.toDigits 16 n).length ≤ 6) :
    Literal.numberEscape? 0 0 (Nat.toDigits 16 n ++ rest) =
      Literal.numberEscape? (Nat.toDigits 16 n).length n rest := by
  induction n using Nat.strongRecOn generalizing rest with
  | ind n ih =>
      rw [Nat.toDigits_eq_if (by decide)] at hlength ⊢
      split at hlength
      next hn =>
        rw [if_pos hn, List.singleton_append, List.length_singleton,
          numberEscape?_digitChar (by omega) hn, Nat.mul_zero, Nat.zero_add, Nat.zero_add]
      next hn =>
        rw [List.length_append, List.length_singleton] at hlength
        rw [if_neg hn, List.append_assoc, List.singleton_append, List.length_append,
          List.length_singleton, ih (n / 16) (by omega) (by omega),
          numberEscape?_digitChar (by omega) (by omega), Nat.div_add_mod]

theorem numberEscape?_numberEscape (c : Char) (rest : List Char) :
    Literal.numberEscape? 0 0 (Nat.toDigits 16 c.toNat ++ '}' :: rest) = some (c, rest) := by
  have hvalid : c.toNat.isValidChar := c.valid
  have hlength : (Nat.toDigits 16 c.toNat).length ≤ 6 := by
    rw [Nat.length_toDigits_le_iff (by decide) (by decide)]
    rw [Nat.isValidChar] at hvalid
    omega
  have hpos : (Nat.toDigits 16 c.toNat).length ≠ 0 := Nat.ne_of_gt Nat.length_toDigits_pos
  have hclose : Literal.hexDigit? '}' = none := by decide
  have hvalue : Literal.charOfNat? c.toNat = some c := by
    rw [Literal.charOfNat?, dif_pos hvalid]
    rfl
  rw [numberEscape?_toDigits c.toNat hlength, Literal.numberEscape?]
  simp [hclose, hpos, hvalue]

/-! ## Characters and texts -/

/-- Besides the character itself, an escape has only signs, letters and digits
that no list is separated by. -/
theorem mem_escape {c d : Char} (hd : d ∈ escape c) :
    d = c ∨ d ∈ ['\\', 'u', '{', '}', 't', 'r', 'n'] ∨ (Literal.hexDigit? d).isSome = true := by
  unfold escape at hd
  split at hd
  case h_7 =>
    split at hd
    next =>
      rw [numberEscape, List.mem_append, List.mem_append] at hd
      rcases hd with (hd | hd) | hd
      · exact .inr (.inl (List.mem_append_left ['}', 't', 'r', 'n'] hd))
      · exact .inr (.inr (isSome_hexDigit?_of_mem_toDigits hd))
      · rw [List.mem_singleton.mp hd]
        exact .inr (.inl (by decide))
    next => exact .inl (List.mem_singleton.mp hd)
  all_goals
    simp only [List.mem_cons, List.not_mem_nil, or_false] at hd
    rcases hd with rfl | rfl <;> decide

theorem comma_not_mem_escape {c : Char} (hc : c ≠ ',') : ',' ∉ escape c := by
  intro hmem
  rcases mem_escape hmem with hsame | hsign | hdigit
  · exact hc hsame.symm
  · exact absurd hsign (by decide)
  · exact absurd hdigit (by decide)

theorem comma_not_mem_quoted {s : String} (hs : ',' ∉ s.toList) : ',' ∉ (quoted s).toList := by
  have hescapes : ',' ∉ s.toList.flatMap escape := by
    intro hmem
    obtain ⟨c, hc, hmem⟩ := List.mem_flatMap.mp hmem
    exact comma_not_mem_escape (fun heq => hs (heq ▸ hc)) hmem
  simpa [quoted] using hescapes

/-- A character that is written as it is. -/
theorem ordinary?_plain (fuel : Nat) {c : Char} (rest : List Char) (hquote : c ≠ '"')
    (hslash : c ≠ '\\') (hreturn : c ≠ '\r') :
    Literal.ordinary? (fuel + 1) false (c :: rest) =
      (Literal.ordinary? fuel false rest).map (c :: ·) := by
  rw [Literal.ordinary?]
  · simp
  · exact hquote
  · exact fun _ hc _ => hreturn hc
  all_goals
    intros
    contradiction

/-- The reader takes one character for each escape. -/
theorem ordinary?_escape (fuel : Nat) (c : Char) (rest : List Char) :
    Literal.ordinary? (fuel + 1) false (escape c ++ rest) =
      (Literal.ordinary? fuel false rest).map (c :: ·) := by
  unfold escape
  split
  case h_7 _ _ _ hreturn _ hslash hquote =>
    split
    next =>
      have hnumber := numberEscape?_numberEscape c rest
      cases hrest : Literal.ordinary? fuel false rest <;>
        simp [numberEscape, Literal.ordinary?, hnumber, hrest]
    next =>
      exact ordinary?_plain fuel rest hquote hslash hreturn
  all_goals
    cases hrest : Literal.ordinary? fuel false rest <;>
      simp [Literal.ordinary?, Literal.letterEscape?, hrest]

theorem ordinary?_flatMap_escape (cs : List Char) {fuel : Nat} (hfuel : cs.length < fuel) :
    Literal.ordinary? fuel false (cs.flatMap escape ++ ['"']) = some cs := by
  induction cs generalizing fuel with
  | nil =>
      obtain ⟨fuel, rfl⟩ := Nat.exists_eq_add_one_of_ne_zero (Nat.ne_of_gt hfuel)
      simp [Literal.ordinary?]
  | cons c cs ih =>
      obtain ⟨fuel, rfl⟩ :=
        Nat.exists_eq_add_one_of_ne_zero (Nat.ne_of_gt (Nat.zero_lt_of_lt hfuel))
      rw [List.flatMap_cons, List.append_assoc, ordinary?_escape,
        ih (by simpa using hfuel), Option.map_some]

theorem length_le_flatMap_escape (cs : List Char) :
    cs.length ≤ (cs.flatMap escape).length := by
  induction cs with
  | nil => exact Nat.le_refl 0
  | cons c cs ih =>
      have hescape : 0 < (escape c).length := by
        unfold escape
        split
        case h_7 => split <;> simp [numberEscape]
        all_goals decide
      rw [List.flatMap_cons, List.length_append, List.length_cons]
      omega

theorem toList_quoted (s : String) :
    (quoted s).toList = '"' :: (s.toList.flatMap escape ++ ['"']) := by
  rw [quoted, String.toList_ofList, List.cons_append]

/-- Reading a quoted text gives the text. -/
theorem string?_quoted (s : String) : Literal.string? (quoted s) = some s := by
  have hfuel : s.toList.length < (s.toList.flatMap escape ++ ['"']).length + 1 := by
    have hlength := length_le_flatMap_escape s.toList
    rw [List.length_append]
    omega
  rw [Literal.string?, toList_quoted]
  simp only [ordinary?_flatMap_escape s.toList hfuel, Option.map_some, String.ofList_toList]

/-! ## What is written -/

/-- The characters at which a line may end. -/
def lineBreaks : List Char :=
  ['\n', '\x0b', '\x0c', '\r', '\u0085', '\u2028', '\u2029']

theorem not_mem_lineBreaks {c : Char} (hc : isVisible c = true) : c ∉ lineBreaks := by
  have hbreaks : (lineBreaks.all fun d => !isVisible d) = true := by decide +kernel
  intro hmem
  simpa [hc] using List.all_eq_true.mp hbreaks c hmem

/-- No line ends in a text of visible characters. -/
theorem not_mem_of_all_isVisible {cs : List Char} {c : Char} (hc : c ∈ lineBreaks)
    (hcs : cs.all isVisible = true) : c ∉ cs :=
  fun hmem => not_mem_lineBreaks (List.all_eq_true.mp hcs c hmem) hc

theorem isVisible_of_mem_numberEscape {c d : Char} (hd : d ∈ numberEscape c) :
    isVisible d = true := by
  have hsigns : ['\\', 'u', '{', '}'].all isVisible = true := by decide
  have hdigits : ∀ d : Fin 16, isVisible (Nat.digitChar d) = true := by decide
  rw [numberEscape, List.mem_append, List.mem_append] at hd
  rcases hd with (hd | hd) | hd
  · exact List.all_eq_true.mp hsigns d (List.mem_append_left ['}'] hd)
  · obtain ⟨digit, rfl⟩ := exists_digitChar_of_mem_toDigits hd
    exact hdigits digit
  · exact List.all_eq_true.mp hsigns d (List.mem_append_right ['\\', 'u', '{'] hd)

theorem isVisible_of_mem_escape {c d : Char} (hd : d ∈ escape c) : isVisible d = true := by
  unfold escape at hd
  split at hd
  case h_7 =>
    split at hd
    next => exact isVisible_of_mem_numberEscape hd
    next hshown =>
      rw [Bool.not_eq_true, Bool.or_eq_false_iff, Bool.not_eq_false'] at hshown
      rw [List.mem_singleton.mp hd, hshown.2]
  all_goals
    simp only [List.mem_cons, List.not_mem_nil, or_false] at hd
    rcases hd with rfl | rfl <;> decide

/-- Every character of a literal is visible. -/
theorem isVisible_of_mem_quoted {s : String} {d : Char} (hd : d ∈ (quoted s).toList) :
    isVisible d = true := by
  rw [toList_quoted, List.mem_cons, List.mem_append, List.mem_flatMap] at hd
  rcases hd with rfl | ⟨c, -, hd⟩ | hd
  · decide
  · exact isVisible_of_mem_escape hd
  · rw [List.mem_singleton.mp hd]
    decide

/-- Whether `cs` ends with a backslash that escapes the next character. -/
def opensEscape (cs : List Char) : Bool :=
  cs.foldl (fun opened c => !opened && c == '\\') false

theorem opensEscape_append {xs : List Char} (hxs : opensEscape xs = false) (ys : List Char) :
    opensEscape (xs ++ ys) = opensEscape ys := by
  rw [opensEscape, List.foldl_append, ← opensEscape, hxs, opensEscape]

theorem opensEscape_of_not_mem {cs : List Char} (hcs : '\\' ∉ cs) : opensEscape cs = false := by
  induction cs with
  | nil => rfl
  | cons c cs ih =>
      rw [List.mem_cons, not_or] at hcs
      have hc : opensEscape [c] = false := by simpa [opensEscape] using Ne.symm hcs.1
      rw [← List.singleton_append, opensEscape_append hc, ih hcs.2]

theorem opensEscape_escape (c : Char) : opensEscape (escape c) = false := by
  unfold escape
  split
  case h_7 _ _ _ _ _ hslash _ =>
    split
    next =>
      have hdigits : '\\' ∉ Nat.toDigits 16 c.toNat := fun hmem =>
        absurd (isSome_hexDigit?_of_mem_toDigits hmem) (by decide)
      rw [numberEscape, List.append_assoc, opensEscape_append (by decide)]
      exact opensEscape_of_not_mem (by simpa using hdigits)
    next => exact opensEscape_of_not_mem (by simpa using Ne.symm hslash)
  all_goals decide

/-- A quote stands in an escape only after a backslash of its own. -/
theorem opensEscape_of_escape_eq {c : Char} {before after : List Char}
    (h : escape c = before ++ '"' :: after) : opensEscape before = true := by
  have hc : c = '"' := by
    rcases mem_escape (c := c) (d := '"') (by simp [h]) with hsame | hsign | hdigit
    · exact hsame.symm
    · exact absurd hsign (by decide)
    · exact absurd hdigit (by decide)
  have hescape : ['\\', '"'] = before ++ '"' :: after := by rw [← h, hc, escape]
  cases before with
  | nil => exact absurd (List.cons.inj hescape).1 (by decide)
  | cons d before =>
      obtain ⟨rfl, hrest⟩ := List.cons.inj hescape
      cases before with
      | nil => rfl
      | cons d before => simp at hrest

/-- A quote inside a literal is escaped unless it is the last character. -/
theorem opensEscape_eq_false_iff {s : String} {before after : List Char}
    (h : (quoted s).toList = '"' :: (before ++ '"' :: after)) :
    opensEscape before = false ↔ after = [] := by
  rw [toList_quoted, List.cons.injEq] at h
  replace h := h.2
  generalize s.toList = cs at h
  induction cs generalizing before with
  | nil =>
      cases before with
      | nil => simpa [opensEscape] using h.symm
      | cons d before => simp at h
  | cons c cs ih =>
      rw [List.flatMap_cons, List.append_assoc] at h
      rcases List.append_eq_append_iff.mp h with ⟨mid, rfl, hrest⟩ | ⟨mid, hescape, hrest⟩
      · rw [opensEscape_append (opensEscape_escape c)]
        exact ih hrest
      · cases mid with
        | nil =>
            rw [List.append_nil] at hescape
            have hfirst : opensEscape [] = false ↔ after = [] := ih hrest.symm
            rw [← hescape, opensEscape_escape, ← hfirst, opensEscape, List.foldl_nil]
        | cons d mid =>
            -- the quote belongs to the escape
            obtain ⟨rfl, rfl⟩ := List.cons.inj hrest
            simp [opensEscape_of_escape_eq hescape]

end Text

end Rowsmith
