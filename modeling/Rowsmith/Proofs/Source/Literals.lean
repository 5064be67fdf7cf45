/-
# Tokens of quoted texts

The scanner of source texts takes a quoted text as one string literal, wherever it
stands. So the texts that the literals of a source text denote are read back from
its tokens.
-/

import Rowsmith.Proofs.Text.Quoted
import Rowsmith.Source.Scan

namespace Rowsmith.Source

open Text

/-! ## Texts that literals denote -/

namespace Token

mutual

/-- The texts that the string literals of a tree denote, from left to right. -/
def strings : Token → List String
  | literal text => (Literal.string? text).toList
  | group _ body => stringsOfList body
  | _ => []

/-- The texts that the string literals of a list of trees denote. -/
def stringsOfList : List Token → List String
  | [] => []
  | t :: ts => strings t ++ stringsOfList ts

end

theorem stringsOfList_append (ts us : List Token) :
    stringsOfList (ts ++ us) = stringsOfList ts ++ stringsOfList us := by
  induction ts with
  | nil => rfl
  | cons t ts ih => rw [List.cons_append, stringsOfList, stringsOfList, ih, List.append_assoc]

@[simp]
theorem strings_quoted (s : String) : strings (.literal (quoted s)) = [s] := by
  rw [strings, string?_quoted, Option.toList_some]

end Token

/-- The texts that the string literals of a source text denote, from left to right. -/
def stringLiterals? (text : String) : Option (List String) :=
  (tokens? text.toList).map Token.stringsOfList

/-! ## Scanning a quoted text -/

namespace Scan

variable {fuel : Nat} {rest : List Char}

/-- A character that is written as it is. -/
theorem ordinary?_plain (fuel : Nat) {c : Char} (rest : List Char) (hquote : c ≠ '"')
    (hslash : c ≠ '\\') (hreturn : c ≠ '\r') :
    ordinary? stringRules (fuel + 1) (c :: rest) = ordinary? stringRules fuel rest := by
  rw [ordinary?]
  · simp [stringRules]
  · exact hquote
  · exact fun _ hc _ => hreturn hc
  · exact hreturn
  · exact fun _ hc _ => hslash hc
  · exact fun _ hc _ => hslash hc
  · exact hslash

/-- The scanner passes over one escape at each step. -/
theorem ordinary?_escape (fuel : Nat) (c : Char) (rest : List Char) :
    ordinary? stringRules (fuel + 1) (escape c ++ rest) = ordinary? stringRules fuel rest := by
  unfold escape
  split
  case h_7 _ _ _ hreturn _ hslash hquote =>
    split
    next =>
      have hnumber := numberEscape?_numberEscape c rest
      simp [numberEscape, ordinary?, escape?, hnumber, stringRules]
    next => exact ordinary?_plain fuel rest hquote hslash hreturn
  all_goals
    simp [ordinary?, escape?, stringRules, Literal.letterEscape?]

theorem ordinary?_flatMap_escape {cs : List Char} (hfuel : cs.length < fuel) :
    ordinary? stringRules fuel (cs.flatMap escape ++ '"' :: rest) = some (suffix rest) := by
  induction cs generalizing fuel with
  | nil =>
      obtain ⟨fuel, rfl⟩ := Nat.exists_eq_add_one_of_ne_zero (Nat.ne_of_gt hfuel)
      rfl
  | cons c cs ih =>
      obtain ⟨fuel, rfl⟩ :=
        Nat.exists_eq_add_one_of_ne_zero (Nat.ne_of_gt (Nat.zero_lt_of_lt hfuel))
      rw [List.flatMap_cons, List.append_assoc, ordinary?_escape, ih (by simpa using hfuel)]

/-- A quoted text is one literal, where no name follows it directly. -/
theorem literal?_quoted (s : String) (hrest : suffix rest = rest) :
    literal? ((quoted s).toList ++ rest) = some (quoted s, rest) := by
  have htext : (quoted s).toList ++ rest =
      '"' :: (s.toList.flatMap escape ++ '"' :: rest) := by
    rw [toList_quoted]
    simp
  have hscan : textLiteral? ((quoted s).toList ++ rest) = some rest := by
    rw [htext, textLiteral?, ordinary?_flatMap_escape, hrest]
    have hlength := length_le_flatMap_escape s.toList
    simp only [List.length_append, List.length_cons]
    omega
  rw [literal?, hscan]
  simp

/-! ## Passing over a text -/

/-- Where the scanner of trees stands: the groups that are open, innermost first, and
the tokens inside the innermost one, last first. -/
structure State where
  opened : List Frame := []
  done : List Token := []

/-- Scanning `cs` leads from `before` to `after`, where `rest` follows. It takes no more
steps than `cs` has characters. -/
def Leads (cs rest : List Char) (before after : State) : Prop :=
  ∃ steps ≤ cs.length, ∀ fuel,
    trees? (fuel + 1 + steps) before.opened before.done (cs ++ rest) =
      trees? (fuel + 1) after.opened after.done rest

namespace Leads

theorem append {cs ds rest : List Char} {x y z : State} (hcs : Leads cs (ds ++ rest) x y)
    (hds : Leads ds rest y z) : Leads (cs ++ ds) rest x z := by
  obtain ⟨n, hn, hcs⟩ := hcs
  obtain ⟨m, hm, hds⟩ := hds
  refine ⟨m + n, by rw [List.length_append]; omega, fun fuel => ?_⟩
  calc trees? (fuel + 1 + (m + n)) x.opened x.done (cs ++ ds ++ rest)
      = trees? (fuel + m + 1 + n) x.opened x.done (cs ++ (ds ++ rest)) := by
        rw [List.append_assoc]
        congr 1
        omega
    _ = trees? (fuel + 1 + m) y.opened y.done (ds ++ rest) := by
        rw [hcs, Nat.add_right_comm]
    _ = trees? (fuel + 1) z.opened z.done rest := hds fuel

/-- A text that leaves no group open is read as its tokens. -/
theorem tokens?_eq {cs : List Char} {done : List Token} (h : Leads cs [] {} ⟨[], done⟩)
    (hmark : dropByteOrderMark cs = cs) : tokens? cs = some done.reverse := by
  obtain ⟨n, hn, hsteps⟩ := h
  -- a text has fuel for as many steps as it has characters
  obtain ⟨fuel, hfuel⟩ := Nat.exists_eq_add_of_le hn
  have hscan := hsteps fuel
  rw [List.append_nil, Nat.add_right_comm, Nat.add_comm fuel n, ← hfuel] at hscan
  rw [tokens?, hmark]
  exact hscan

end Leads

/-- Before the character `next`, `text` is scanned as the tokens `ts`. -/
def IsScanned (text : String) (next : Char) (ts : List Token) : Prop :=
  ∀ (x : State) (rest : List Char),
    Leads text.toList (next :: rest) x { x with done := ts.reverse ++ x.done }

theorem leads_comma (x : State) (rest : List Char) :
    Leads [',', ' '] rest x { x with done := .punct ',' false :: x.done } :=
  ⟨1, by decide, fun _ => rfl⟩

/-- A quoted text is passed over in one step. -/
theorem leads_quoted (s : String) (x : State) {rest : List Char} (hrest : suffix rest = rest) :
    Leads (quoted s).toList rest x { x with done := .literal (quoted s) :: x.done } := by
  refine ⟨1, by simp [toList_quoted], fun fuel => ?_⟩
  have hliteral := literal?_quoted s hrest
  rw [toList_quoted, List.cons_append] at hliteral ⊢
  -- all other scanners see no more than the opening quote
  generalize s.toList.flatMap escape ++ ['"'] ++ rest = cs at hliteral ⊢
  have hskip : skip ('"' :: cs).length ('"' :: cs) = '"' :: cs := rfl
  have hdocumentation : documentation? ('"' :: cs) = none := rfl
  have hopening : Delimiter.ofOpening? '"' = none := rfl
  have hclosing : Delimiter.ofClosing? '"' = none := rfl
  have hleaf : leaf? ('"' :: cs) = some (.literal (quoted s), rest) := by
    rw [leaf?, hliteral]
  rw [trees?]
  simp only [hskip, hdocumentation, ite_self, hopening, hclosing, hleaf]

theorem isScanned_quoted (s : String) {next : Char} (hnext : isNameStart next = false) :
    IsScanned (quoted s) next [.literal (quoted s)] := by
  intro x rest
  have hrest : suffix (next :: rest) = next :: rest := by simp [suffix, plainName?, hnext]
  exact leads_quoted s x hrest

/-- A list of quoted texts is scanned as their literals. -/
theorem exists_isScanned_intercalate (names : List String) :
    ∃ ts, IsScanned (", ".intercalate (names.map quoted)) ']' ts ∧
      Token.stringsOfList ts = names := by
  induction names with
  | nil => exact ⟨[], fun x rest => ⟨0, Nat.le_refl 0, fun fuel => rfl⟩, rfl⟩
  | cons s names ih =>
      obtain ⟨ts, hts, hstrings⟩ := ih
      cases names with
      | nil =>
          have hlast : IsScanned (quoted s) ']' [.literal (quoted s)] := isScanned_quoted s rfl
          exact ⟨[.literal (quoted s)], by simpa using hlast, by simp [Token.stringsOfList]⟩
      | cons s' names =>
          refine ⟨.literal (quoted s) :: .punct ',' false :: ts, fun x rest => ?_, ?_⟩
          · have htext : (", ".intercalate ((s :: s' :: names).map quoted)).toList =
                (quoted s).toList ++
                  ([',', ' '] ++ (", ".intercalate ((s' :: names).map quoted)).toList) := by
              simp [String.intercalate_cons_cons]
            rw [htext]
            simpa using (leads_quoted s x rfl).append ((leads_comma _ _).append (hts _ rest))
          · rw [Token.stringsOfList, Token.strings_quoted, Token.stringsOfList, hstrings]
            rfl

/-- Between brackets a list is scanned as one group. -/
theorem IsScanned.bracket {text : String} {ts : List Token} (h : IsScanned text ']' ts)
    (next : Char) : IsScanned ("[" ++ text ++ "]") next [.group .bracket ts] := by
  intro x rest
  have htext : ("[" ++ text ++ "]").toList = ['['] ++ (text.toList ++ [']']) := by simp
  have hopening : Leads ['['] (text.toList ++ [']'] ++ next :: rest) x
      ⟨(.bracket, x.done) :: x.opened, []⟩ := ⟨1, by decide, fun _ => rfl⟩
  have hclosing : Leads [']'] (next :: rest) ⟨(.bracket, x.done) :: x.opened, ts.reverse ++ []⟩
      { x with done := .group .bracket (ts.reverse ++ []).reverse :: x.done } :=
    ⟨1, by decide, fun _ => rfl⟩
  rw [htext]
  simpa using hopening.append ((h _ _).append hclosing)

end Scan

end Rowsmith.Source
