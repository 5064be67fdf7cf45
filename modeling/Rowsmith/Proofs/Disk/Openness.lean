/-
# What patterns leave open

A name with special characters is read as a pattern with a piece that does not spell
a character. If such a pattern matches its own text then it matches other names too:
a class is shorter than its text, so one of the pieces has to be a star or a question
mark, and there another character can stand.
-/

import Mathlib.Algebra.Order.BigOperators.Group.List
import Mathlib.Algebra.Order.Group.Nat
import Rowsmith.Proofs.Disk.Rows

namespace Rowsmith.Disk

open Rowsmith.Disk.Path

namespace Piece

/-- The piece takes any character. -/
inductive IsOpen : Piece → Prop
  | anyOne : IsOpen anyOne
  | anyRun : IsOpen anyRun
  | anyDepth : IsOpen anyDepth

/-- The piece spells a character. -/
def IsSpelled (piece : Piece) : Prop :=
  ∃ c, piece = exactly c

theorem spelling?_eq_none {pieces : List Piece} (h : ∃ piece ∈ pieces, ¬IsSpelled piece) :
    spelling? pieces = none := by
  obtain ⟨piece, hpiece, hspelled⟩ := h
  induction pieces with
  | nil => cases hpiece
  | cons first pieces ih =>
      rcases List.mem_cons.mp hpiece with rfl | hpiece
      · unfold spelling?
        split
        next hnil => cases hnil
        next hcons => exact absurd ⟨_, (List.cons.inj hcons).1⟩ hspelled
        next => rfl
      · unfold spelling?
        split
        next hnil => cases hnil
        next hcons =>
          obtain ⟨-, rfl⟩ := List.cons.inj hcons
          rw [ih hpiece]
          rfl
        next => rfl

/-! ## Reading -/

theorem length_untilClosed? {cs more : List Char} (h : untilClosed? cs = some more) :
    more.length < cs.length := by
  induction cs generalizing more with
  | nil => cases h
  | cons c cs ih =>
      unfold untilClosed? at h
      split at h
      next hnil => cases hnil
      next hclosed =>
        cases h
        simp
      next hcons =>
        obtain ⟨-, rfl⟩ := List.cons.inj hcons
        obtain ⟨rest, hrest, rfl⟩ := Option.map_eq_some_iff.mp h
        simpa using ih hrest

/-- A class is shorter than its text, and spells no character. -/
theorem class?_eq_some {cs : List Char} {piece : Piece} {width : Nat}
    (h : class? cs = some (piece, width)) :
    0 < width ∧ width ≤ cs.length ∧ ¬IsSpelled piece := by
  unfold class? at h
  split at h
  all_goals first | cases h | skip
  all_goals
    obtain ⟨more, hmore, hclass⟩ := Option.map_eq_some_iff.mp h
    obtain ⟨rfl, rfl⟩ := Prod.mk.inj hclass
    have := length_untilClosed? hmore
    refine ⟨by omega, ?_, by rintro ⟨c, hc⟩; cases hc⟩
    simp only [List.length_cons]
    omega

/-- A first piece adds to the pieces of the rest. -/
theorem length_cons_of_le {piece : Piece} {pieces : List Piece} {n m : Nat}
    (hle : pieces.length + n ≤ m)
    (hlt : (∃ p ∈ pieces, ¬IsSpelled p) → pieces.length + n < m)
    (hpiece : IsSpelled piece ∨ 0 < n) :
    (piece :: pieces).length ≤ m + 1 ∧
      ((∃ p ∈ piece :: pieces, ¬IsSpelled p) → (piece :: pieces).length < m + 1) := by
  refine ⟨by rw [List.length_cons]; omega, ?_⟩
  rw [List.exists_mem_cons_iff, List.length_cons]
  rintro (hnot | hrest)
  · have := hpiece.resolve_left hnot
    omega
  · have := hlt hrest
    omega

/-- A text is read into no more pieces than it has characters, and into fewer if it has
a class and nothing that takes any character. -/
theorem length_ofChars {skip position : Nat} {before : Option Char} {cs : List Char}
    {pieces : List Piece} (hskip : skip ≤ cs.length)
    (h : ofChars skip position before cs = .ok pieces) (hclosed : ∀ piece ∈ pieces, ¬IsOpen piece) :
    pieces.length + skip ≤ cs.length ∧
      ((∃ piece ∈ pieces, ¬IsSpelled piece) → pieces.length + skip < cs.length) := by
  fun_induction ofChars skip position before cs generalizing pieces with
  | case1 skip position before =>
      cases h
      simpa using hskip
  | case2 position before c cs skip ih =>
      have hrest := ih (by simpa using hskip) h hclosed
      simp only [List.length_cons]
      exact ⟨by omega, fun hnot => by have := hrest.2 hnot; omega⟩
  | case3 position before cs ih =>
      obtain ⟨more, -, rfl⟩ := map_eq_ok_iff.mp h
      exact absurd .anyOne (hclosed _ List.mem_cons_self)
  | case4 => cases h
  | case5 => cases h
  | case6 => cases h
  | case7 =>
      obtain ⟨more, -, rfl⟩ := map_eq_ok_iff.mp h
      exact absurd .anyDepth (hclosed _ List.mem_cons_self)
  | case8 =>
      obtain ⟨more, -, rfl⟩ := map_eq_ok_iff.mp h
      exact absurd .anyRun (hclosed _ List.mem_cons_self)
  | case9 position before cs piece width hclass ih =>
      simp only [hclass] at h
      obtain ⟨more, hmore, rfl⟩ := map_eq_ok_iff.mp h
      obtain ⟨hpos, hle, -⟩ := class?_eq_some hclass
      rw [List.forall_mem_cons] at hclosed
      obtain ⟨hrest, hlt⟩ := ih hle hmore hclosed.2
      exact length_cons_of_le hrest hlt (.inr hpos)
  | case10 position before cs hclass =>
      simp only [hclass] at h
      cases h
  | case11 position before cs c _ _ _ _ _ ih =>
      obtain ⟨more, hmore, rfl⟩ := map_eq_ok_iff.mp h
      rw [List.forall_mem_cons] at hclosed
      obtain ⟨hrest, hlt⟩ := ih (Nat.zero_le _) hmore hclosed.2
      exact length_cons_of_le hrest hlt (.inl ⟨c, rfl⟩)

/-- A special character is read into a piece that spells no character. -/
theorem exists_not_isSpelled_of_mem {position : Nat} {before : Option Char} {cs : List Char}
    {pieces : List Piece} (h : ofChars 0 position before cs = .ok pieces)
    (hspecial : ∃ c ∈ cs, c = '?' ∨ c = '*' ∨ c = '[') : ∃ piece ∈ pieces, ¬IsSpelled piece := by
  generalize hskip : 0 = skip at h
  fun_induction ofChars skip position before cs generalizing pieces with
  | case1 => simp at hspecial
  | case2 => cases hskip
  | case3 position before cs ih =>
      obtain ⟨more, -, rfl⟩ := map_eq_ok_iff.mp h
      exact ⟨anyOne, List.mem_cons_self, by rintro ⟨c, hc⟩; cases hc⟩
  | case4 => cases h
  | case5 => cases h
  | case6 => cases h
  | case7 =>
      obtain ⟨more, -, rfl⟩ := map_eq_ok_iff.mp h
      exact ⟨anyDepth, List.mem_cons_self, by rintro ⟨c, hc⟩; cases hc⟩
  | case8 =>
      obtain ⟨more, -, rfl⟩ := map_eq_ok_iff.mp h
      exact ⟨anyRun, List.mem_cons_self, by rintro ⟨c, hc⟩; cases hc⟩
  | case9 position before cs piece width hclass ih =>
      simp only [hclass] at h
      obtain ⟨more, -, rfl⟩ := map_eq_ok_iff.mp h
      exact ⟨piece, List.mem_cons_self, (class?_eq_some hclass).2.2⟩
  | case10 position before cs hclass =>
      simp only [hclass] at h
      cases h
  | case11 position before cs c hone hrun hclass _ _ ih =>
      obtain ⟨more, hmore, rfl⟩ := map_eq_ok_iff.mp h
      rw [List.exists_mem_cons_iff] at hspecial
      have hplain : ¬(c = '?' ∨ c = '*' ∨ c = '[') := by
        rintro (hc | hc | hc)
        · exact hone hc
        · exact hrun hc
        · exact hclass hc
      obtain ⟨piece, hpiece, hspelled⟩ := ih (hspecial.resolve_left hplain) rfl hmore
      exact ⟨piece, List.mem_cons_of_mem _ hpiece, hspelled⟩

/-! ## Matching -/

theorem mem_endings {cs ds : List Char} : ds ∈ endings cs ↔ ds <:+ cs := by
  induction cs with
  | nil => simp [endings]
  | cons c cs ih => rw [endings, List.mem_cons, ih, List.suffix_cons_iff]

/-- The characters that a piece takes: any at all, or one of its own. -/
inductive Spans : Piece → List Char → Prop
  | run (cs : List Char) : Spans anyRun cs
  | depth (cs : List Char) : Spans anyDepth cs
  | single {piece : Piece} {c : Char} (taken : piece.takes c = true) : Spans piece [c]

theorem any_endings_iff {p : List Char → Bool} {cs : List Char} :
    (endings cs).any p = true ↔ ∃ taken rest, cs = taken ++ rest ∧ p rest = true := by
  simp only [List.any_eq_true, mem_endings]
  constructor
  · rintro ⟨rest, ⟨taken, rfl⟩, hrest⟩
    exact ⟨taken, rest, rfl, hrest⟩
  · rintro ⟨taken, rest, rfl, hrest⟩
    exact ⟨rest, List.suffix_append taken rest, hrest⟩

/-- A first piece takes characters up to those that the other pieces match. -/
theorem matchAll_cons_iff {piece : Piece} {pieces : List Piece} {cs : List Char} :
    matchAll (piece :: pieces) cs = true ↔
      ∃ taken rest, cs = taken ++ rest ∧ Spans piece taken ∧ matchAll pieces rest = true := by
  by_cases hpiece : piece = anyRun ∨ piece = anyDepth
  · have hruns : ∀ cs, Spans piece cs := by
      rcases hpiece with rfl | rfl
      · exact .run
      · exact .depth
    have hany : matchAll (piece :: pieces) cs = (endings cs).any (matchAll pieces) := by
      rcases hpiece with rfl | rfl <;> rfl
    rw [hany, any_endings_iff]
    simp only [hruns, true_and]
  · have hsingle : matchAll (piece :: pieces) cs = true ↔
        ∃ c rest, cs = c :: rest ∧ piece.takes c = true ∧ matchAll pieces rest = true := by
      cases cs <;> cases piece <;> simp_all [matchAll]
    rw [hsingle]
    constructor
    · rintro ⟨c, rest, rfl, htaken, hrest⟩
      exact ⟨[c], rest, rfl, .single htaken, hrest⟩
    · rintro ⟨taken, rest, rfl, hspans, hrest⟩
      cases hspans with
      | run => exact absurd (.inl rfl) hpiece
      | depth => exact absurd (.inr rfl) hpiece
      | @single _ c htaken => exact ⟨c, rest, rfl, htaken, hrest⟩

theorem IsOpen.spans {piece : Piece} (h : piece.IsOpen) (c : Char) : Spans piece [c] := by
  cases h with
  | anyOne => exact .single rfl
  | anyRun => exact .run [c]
  | anyDepth => exact .depth [c]

/-- A piece that takes certain characters only takes one of them. -/
theorem length_of_spans {piece : Piece} {cs : List Char} (hclosed : ¬piece.IsOpen)
    (h : Spans piece cs) : cs.length = 1 := by
  cases h with
  | run => exact absurd .anyRun hclosed
  | depth => exact absurd .anyDepth hclosed
  | single => rfl

/-- Pieces that each take a certain character match texts of their length. -/
theorem length_of_matchAll {pieces : List Piece} {cs : List Char}
    (hclosed : ∀ piece ∈ pieces, ¬IsOpen piece) (h : matchAll pieces cs = true) :
    cs.length = pieces.length := by
  induction pieces generalizing cs with
  | nil => simpa [matchAll] using h
  | cons piece pieces ih =>
      rw [List.forall_mem_cons] at hclosed
      obtain ⟨taken, rest, rfl, hspans, hrest⟩ := matchAll_cons_iff.mp h
      rw [List.length_append, length_of_spans hclosed.1 hspans, ih hclosed.2 hrest,
        List.length_cons, Nat.add_comm]

/-- Where a piece takes any character another character can stand. -/
theorem exists_matchAll {pieces : List Piece} {cs : List Char}
    (hopen : ∃ piece ∈ pieces, IsOpen piece) (h : matchAll pieces cs = true) :
    ∃ before after, before ⊆ cs ∧ after ⊆ cs ∧
      ∀ c, matchAll pieces (before ++ c :: after) = true := by
  induction pieces generalizing cs with
  | nil => simp at hopen
  | cons piece pieces ih =>
      obtain ⟨taken, rest, rfl, hspans, hrest⟩ := matchAll_cons_iff.mp h
      rw [List.exists_mem_cons_iff] at hopen
      rcases hopen with hpiece | hopen
      · refine ⟨[], rest, List.nil_subset _, List.subset_append_right taken rest, fun c => ?_⟩
        exact matchAll_cons_iff.mpr ⟨[c], rest, rfl, hpiece.spans c, hrest⟩
      · obtain ⟨before, after, hbefore, hafter, hmatch⟩ := ih hopen hrest
        refine ⟨taken ++ before, after, ?_, ?_, fun c => ?_⟩
        · exact List.append_subset.mpr ⟨List.subset_append_left taken rest,
            List.Subset.trans hbefore (List.subset_append_right taken rest)⟩
        · exact List.Subset.trans hafter (List.subset_append_right taken rest)
        · rw [List.append_assoc]
          exact matchAll_cons_iff.mpr ⟨taken, _, rfl, hspans, hmatch c⟩

/-- A text that is no plain text leaves a piece open if it matches itself as a pattern. -/
theorem exists_isOpen_of_self {s : String} {pieces : List Piece} (h : ofText s = .ok pieces)
    (hspecial : ∃ piece ∈ pieces, ¬IsSpelled piece) (hself : matchAll pieces s.toList = true) :
    ∃ piece ∈ pieces, IsOpen piece := by
  by_contra hclosed
  push Not at hclosed
  have hshorter := (length_ofChars (Nat.zero_le _) h hclosed).2 hspecial
  rw [length_of_matchAll hclosed hself] at hshorter
  omega

/-- Pieces that spell a point and match it leave a piece open if they do not spell all. -/
theorem exists_isOpen_of_dot {pieces : List Piece}
    (hspecial : ∃ piece ∈ exactly '.' :: pieces, ¬IsSpelled piece)
    (hdot : matchAll (exactly '.' :: pieces) ['.'] = true) :
    ∃ piece ∈ exactly '.' :: pieces, IsOpen piece := by
  by_contra hclosed
  push Not at hclosed
  have hlength := length_of_matchAll hclosed hdot
  obtain rfl : pieces = [] := by simpa using hlength
  rw [List.exists_mem_cons_iff] at hspecial
  rcases hspecial with hnot | ⟨piece, hpiece, -⟩
  · exact hnot ⟨'.', rfl⟩
  · cases hpiece

/-- Of three different names at most two are others. -/
theorem exists_char_ne {named : Char → String} (h : Function.Injective named) (s t : String) :
    ∃ c, c ≠ '.' ∧ c ≠ '/' ∧ named c ≠ s ∧ named c ≠ t := by
  by_contra hall
  push Not at hall
  have hx := or_iff_not_imp_left.mpr (hall 'x' (by decide) (by decide))
  have hy := or_iff_not_imp_left.mpr (hall 'y' (by decide) (by decide))
  have hz := or_iff_not_imp_left.mpr (hall 'z' (by decide) (by decide))
  have hxy : named 'x' ≠ named 'y' := h.ne (by decide)
  have hxz : named 'x' ≠ named 'z' := h.ne (by decide)
  have hyz : named 'y' ≠ named 'z' := h.ne (by decide)
  grind

/-- Pieces of which one is open match a name apart from two others. -/
theorem exists_name_of_matchAll {pieces : List Piece} {cs : List Char} (hslash : '/' ∉ cs)
    (hopen : ∃ piece ∈ pieces, IsOpen piece) (h : matchAll pieces cs = true) (s t : String) :
    ∃ name, IsEntryName name ∧ name ≠ s ∧ name ≠ t ∧ matchAll pieces name.toList = true := by
  obtain ⟨before, after, hbefore, hafter, hmatch⟩ := exists_matchAll hopen h
  let named (c : Char) : String := String.ofList (before ++ c :: after)
  have hchars : ∀ c, (named c).toList = before ++ c :: after := fun c => String.toList_ofList
  have hname : ∀ c, c ≠ '.' → c ≠ '/' → IsEntryName (named c) := by
    intro c hdot hslashed
    have hmem : c ∈ (named c).toList := by rw [hchars]; simp
    refine ⟨?_, ?_, ?_, ?_⟩
    · intro heq
      simp [heq] at hmem
    · intro heq
      exact hdot (by simpa [heq] using hmem)
    · intro heq
      exact hdot (by simpa [heq] using hmem)
    · rw [hchars, List.mem_append, List.mem_cons]
      rintro (hchar | hchar | hchar)
      · exact hslash (hbefore hchar)
      · exact hslashed hchar.symm
      · exact hslash (hafter hchar)
  have hinj : Function.Injective named := by
    intro c c' heq
    have hcs := congrArg String.toList heq
    rw [hchars, hchars, List.append_cancel_left_eq] at hcs
    exact (List.cons.inj hcs).1
  obtain ⟨c, hdot, hslashed, hs, ht⟩ := exists_char_ne hinj s t
  exact ⟨named c, hname c hdot hslashed, hs, ht, by rw [hchars]; exact hmatch c⟩

end Piece

/-! ## Other rows -/

/-- There is a name for an entry apart from any others. -/
theorem exists_isEntryName_append_not_mem (ending : String) (hending : '/' ∉ ending.toList)
    (names : List String) :
    ∃ stem, IsEntryName (stem ++ ending) ∧ stem ++ ending ∉ names := by
  -- a row of letters that is longer than all of them
  let letters := List.replicate ((names.map String.length).sum + 1) 'x'
  have hne : ∀ s : String, 'x' ∉ s.toList → String.ofList letters ++ ending ≠ s := by
    rintro s hs rfl
    rw [String.toList_append, String.toList_ofList] at hs
    exact hs (List.mem_append_left _ (List.mem_replicate.mpr ⟨Nat.succ_ne_zero _, rfl⟩))
  refine ⟨String.ofList letters, ⟨?_, ?_, ?_, ?_⟩, fun hmem => ?_⟩
  · exact hne "" (by simp)
  · exact hne "." (by decide)
  · exact hne ".." (by decide)
  · rw [String.toList_append, String.toList_ofList, List.mem_append, not_or]
    refine ⟨fun hslash => ?_, hending⟩
    exact absurd (List.eq_of_mem_replicate hslash) (by decide)
  · have hle := List.le_sum_of_mem (List.mem_map_of_mem (f := String.length) hmem)
    rw [String.length_append, String.length_ofList, List.length_replicate] at hle
    omega

theorem exists_isEntryName_not_mem (names : List String) :
    ∃ name, IsEntryName name ∧ name ∉ names := by
  obtain ⟨stem, hname, hnot⟩ := exists_isEntryName_append_not_mem "" (by simp) names
  exact ⟨stem ++ "", hname, hnot⟩

theorem exists_special {s : String} (h : ¬IsPlainText s) :
    ∃ c ∈ s.toList, c = '?' ∨ c = '*' ∨ c = '[' := by
  by_contra hnone
  push Not at hnone
  exact h hnone

/-- A special character makes a name. -/
theorem isEntryName_of_not_isPlainText {part : String} (hslash : '/' ∉ part.toList)
    (hspecial : ¬IsPlainText part) : IsEntryName part := by
  have hne : ∀ s, IsPlainText s → part ≠ s := by
    rintro s hs rfl
    exact hspecial hs
  exact ⟨hne "" (by decide), hne "." (by decide), hne ".." (by decide), hslash⟩

/-- Any directory may be put in front of a row of directories. -/
theorem Takes.anyDepth_cons {name : String} {patterns : List NamePattern} {row : List String}
    (hname : IsEntryName name) (h : Takes (.anyDepth :: patterns) row) :
    Takes (.anyDepth :: patterns) (name :: row) := by
  generalize hall : NamePattern.anyDepth :: patterns = all at h
  induction h generalizing patterns with
  | nil => cases hall
  | plain => cases hall
  | entry => cases hall
  | step => cases hall
  | @depth pattern names last _ _ single named taken rest =>
      have hnamed : ∀ n ∈ (name :: names) ++ [last], IsEntryName n :=
        List.forall_mem_cons.mpr ⟨hname, named⟩
      exact .depth single hnamed taken rest
  | again rest ih => exact .again (ih rfl)

theorem exists_of_dot_mem_steps {pieces : List Piece}
    (h : "." ∈ (NamePattern.loose pieces).steps) :
    ∃ more, pieces = .exactly '.' :: more ∧ Piece.matchAll pieces ['.'] = true := by
  unfold NamePattern.steps at h
  split at h
  next more heq =>
    obtain rfl := NamePattern.loose.inj heq
    exact ⟨more, rfl, (List.mem_filter.mp h).2⟩
  next => cases h

/-- A text that is no plain text is read into pieces of which one spells no character. -/
theorem ofPieces_of_not_isPlainText {part : String} {pieces : List Piece}
    (h : Piece.ofText part = .ok pieces) (hspecial : ¬IsPlainText part) :
    (∃ piece ∈ pieces, ¬piece.IsSpelled) ∧
      NamePattern.ofPieces pieces = if pieces = [.anyDepth] then .anyDepth else .loose pieces := by
  have hpiece := Piece.exists_not_isSpelled_of_mem h (exists_special hspecial)
  exact ⟨hpiece, by rw [NamePattern.ofPieces, Piece.spelling?_eq_none hpiece]⟩

/-- Only plain texts are read as names that leave nothing open. -/
theorem isPlainText_of_plain {part name : String}
    (h : (Piece.ofText part).map NamePattern.ofPieces = .ok (.plain name)) :
    IsPlainText part ∧ name = part := by
  obtain ⟨pieces, hpieces, hname⟩ := map_eq_ok_iff.mp h
  have hplain : IsPlainText part := by
    by_contra hspecial
    rw [(ofPieces_of_not_isPlainText hpieces hspecial).2] at hname
    split at hname
    · cases hname
    · cases hname
  rw [Piece.ofText_of_isPlainText hplain] at hpieces
  obtain rfl := Except.ok.inj hpieces
  rw [NamePattern.ofPieces_map_exactly] at hname
  exact ⟨hplain, (NamePattern.plain.inj hname).symm⟩

/-- A row that goes by a name of which the pattern is no plain text has another that leaves
it there: a step to another entry is taken in place of at most one step. -/
theorem Takes.exists_detour {part : String} {pattern : NamePattern}
    {patterns : List NamePattern} {row : List String} {steps : List Component}
    (hread : (Piece.ofText part).map NamePattern.ofPieces = .ok pattern)
    (hspecial : ¬IsPlainText part) (hslash : '/' ∉ part.toList)
    (h : Takes (pattern :: patterns) row)
    (hsteps : row.filterMap ofPart? = .normal part :: steps) (other : String) :
    ∃ front name back, row = front ++ back ∧ front.length ≤ 1 ∧ IsEntryName name ∧ name ≠ part ∧
      name ≠ other ∧ Takes (pattern :: patterns) (name :: back) := by
  obtain ⟨pieces, hpieces, rfl⟩ := map_eq_ok_iff.mp hread
  obtain ⟨hpiece, hpattern⟩ := ofPieces_of_not_isPlainText hpieces hspecial
  rw [hpattern] at h ⊢
  split at h
  next hdepth =>
    rw [if_pos hdepth]
    obtain ⟨name, hname, hnot⟩ := exists_isEntryName_not_mem [part, other]
    simp only [List.mem_cons, List.not_mem_nil, or_false, not_or] at hnot
    exact ⟨[], name, row, rfl, by simp, hname, hnot.1, hnot.2, h.anyDepth_cons hname⟩
  next hdepth =>
    rw [if_neg hdepth]
    cases h with
    | @entry _ first _ back named taken rest =>
        rw [List.filterMap_cons, ofPart?_of_isEntryName named] at hsteps
        obtain rfl : first = part := Component.normal.inj (List.cons.inj hsteps).1
        obtain ⟨name, hname, hne, hother, hmatch⟩ := Piece.exists_name_of_matchAll hslash
          (Piece.exists_isOpen_of_self hpieces hpiece taken) taken first other
        exact ⟨[first], name, back, rfl, by simp, hname, hne, hother, .entry hname hmatch rest⟩
    | @step _ first _ back taken rest =>
        rcases eq_of_mem_steps taken with rfl | rfl
        · obtain ⟨more, rfl, hdot⟩ := exists_of_dot_mem_steps taken
          obtain ⟨name, hname, hne, hother, hmatch⟩ := Piece.exists_name_of_matchAll (by decide)
            (Piece.exists_isOpen_of_dot hpiece hdot) hdot part other
          exact ⟨["."], name, back, rfl, by simp, hname, hne, hother, .entry hname hmatch rest⟩
        · cases hsteps

end Rowsmith.Disk
