/-
# Words between blanks

A text is made of words with runs of blanks between them, and perhaps before the
first and behind the last. Which blanks there are in a run, and how many, makes no
difference to the words, as long as there are any where two words would be joined
without them: `words_respace`. What is left of a text without the blanks at its ends
starts and ends with a word.
-/

import Mathlib.Data.List.Basic
import Rowsmith.Text.Blank

namespace Rowsmith.Text

/-! ## Runs -/

/-- A run of blanks, perhaps an empty one. -/
def IsGap (cs : List Char) : Prop :=
  ∀ c ∈ cs, isBlank c = true

/-- A run of characters that are no blanks, with at least one of them. -/
structure IsRun (cs : List Char) : Prop where
  ne_nil : cs ≠ []
  solid : ∀ c ∈ cs, isBlank c = false

/-- No blank stands at either end. -/
structure IsTight (cs : List Char) : Prop where
  head : ∀ c ∈ cs.head?, isBlank c = false
  last : ∀ c ∈ cs.getLast?, isBlank c = false

/-- The text is the runs `ws` with blanks between them. -/
inductive Spaced : List (List Char) → List Char → Prop where
  | run {w : List Char} (hw : IsRun w) : Spaced [w] w
  | cons {w gap cs : List Char} {ws : List (List Char)} (hw : IsRun w) (hgap : IsGap gap)
      (hne : gap ≠ []) (hrest : Spaced ws cs) : Spaced (w :: ws) (w ++ (gap ++ cs))

variable {cs ds gap lead trail w : List Char} {ws : List (List Char)} {c : Char}

theorem isGap_nil : IsGap [] :=
  List.forall_mem_nil _

theorem isGap_cons_iff : IsGap (c :: cs) ↔ isBlank c = true ∧ IsGap cs :=
  List.forall_mem_cons

theorem isGap_append_iff : IsGap (cs ++ ds) ↔ IsGap cs ∧ IsGap ds :=
  List.forall_mem_append

theorem IsRun.cons (hc : isBlank c = false) (h : ∀ d ∈ cs, isBlank d = false) : IsRun (c :: cs) :=
  ⟨List.cons_ne_nil c cs, List.forall_mem_cons.mpr ⟨hc, h⟩⟩

theorem IsRun.isTight (h : IsRun cs) : IsTight cs :=
  ⟨fun c hc => h.solid c (List.mem_of_mem_head? hc),
    fun c hc => h.solid c (List.mem_of_getLast? hc)⟩

namespace Spaced

theorem ne_nil (h : Spaced ws cs) : cs ≠ [] := by
  cases h with
  | run hw => exact hw.ne_nil
  | cons hw _ _ _ => exact List.append_ne_nil_of_left_ne_nil hw.ne_nil _

theorem isTight (h : Spaced ws cs) : IsTight cs := by
  induction h with
  | run hw => exact hw.isTight
  | cons hw hgap hne hrest ih =>
      constructor
      · intro c hc
        rw [List.head?_append_of_ne_nil _ hw.ne_nil] at hc
        exact hw.isTight.head c hc
      · intro c hc
        rw [← List.append_assoc, List.getLast?_append_of_ne_nil _ hrest.ne_nil] at hc
        exact ih.last c hc

/-- Between the blanks there are the runs and nothing else. -/
theorem exists_mem (h : Spaced ws cs) (hc : c ∈ cs) (hsolid : isBlank c = false) :
    ∃ w ∈ ws, c ∈ w := by
  induction h with
  | run hw => exact ⟨_, List.mem_cons_self, hc⟩
  | cons hw hgap hne hrest ih =>
      rcases List.mem_append.mp hc with hc | hc
      · exact ⟨_, List.mem_cons_self, hc⟩
      rcases List.mem_append.mp hc with hc | hc
      · rw [hgap c hc] at hsolid
        cases hsolid
      · obtain ⟨w, hw, hc⟩ := ih hc
        exact ⟨w, List.mem_cons_of_mem _ hw, hc⟩

/-- A character that is no blank goes on the first run to its left. -/
theorem exists_cons (h : Spaced ws cs) (hc : isBlank c = false) : ∃ ws', Spaced ws' (c :: cs) := by
  cases h with
  | run hw => exact ⟨_, .run (.cons hc hw.solid)⟩
  | cons hw hgap hne hrest => exact ⟨_, .cons (.cons hc hw.solid) hgap hne hrest⟩

/-- One blank between each two runs is enough. -/
theorem intercalate (h : ∀ w ∈ ws, IsRun w) (hne : ws ≠ []) : Spaced ws ([' '].intercalate ws) := by
  induction ws with
  | nil => exact absurd rfl hne
  | cons w ws ih =>
      obtain ⟨hw, hrest⟩ := List.forall_mem_cons.mp h
      cases ws with
      | nil => simpa using Spaced.run hw
      | cons next ws =>
          rw [List.intercalate_cons_cons, List.append_assoc]
          exact .cons hw (List.forall_mem_singleton.mpr rfl) (by simp) (ih hrest (by simp))

end Spaced

/-- A text is blanks only, or runs with blanks between them and at the ends. -/
theorem isGap_or_exists_spaced (cs : List Char) :
    IsGap cs ∨ ∃ lead body trail ws, IsGap lead ∧ IsGap trail ∧ cs = lead ++ (body ++ trail) ∧
      Spaced ws body := by
  induction cs with
  | nil => exact .inl isGap_nil
  | cons c cs ih =>
      cases hc : isBlank c with
      | true =>
          rcases ih with hgap | ⟨lead, body, trail, ws, hlead, htrail, rfl, hbody⟩
          · exact .inl (isGap_cons_iff.mpr ⟨hc, hgap⟩)
          · exact .inr ⟨c :: lead, body, trail, ws, isGap_cons_iff.mpr ⟨hc, hlead⟩, htrail, rfl,
              hbody⟩
      | false =>
          have hone : IsRun [c] := .cons hc (by simp)
          refine .inr ?_
          rcases ih with hgap | ⟨lead, body, trail, ws, hlead, htrail, rfl, hbody⟩
          · exact ⟨[], [c], cs, _, isGap_nil, hgap, rfl, .run hone⟩
          · by_cases hnone : lead = []
            · obtain ⟨ws', hbody'⟩ := hbody.exists_cons hc
              exact ⟨[], c :: body, trail, ws', isGap_nil, htrail, by simp [hnone], hbody'⟩
            · exact ⟨[], [c] ++ (lead ++ body), trail, _, isGap_nil, htrail, by simp,
                .cons hone hlead hnone hbody⟩

/-! ## Words -/

theorem runsBetween_append_cons {split : Char → Bool} (hc : split c = true)
    (word cs ds : List Char) :
    runsBetween split word (cs ++ c :: ds) =
      runsBetween split word cs ++ runsBetween split [] ds := by
  induction cs generalizing word with
  | nil => cases word <;> simp [runsBetween, hc]
  | cons d cs ih =>
      rw [List.cons_append, runsBetween, runsBetween]
      split
      · split <;> simp [ih]
      · exact ih (d :: word)

theorem runsBetween_of_forall {split : Char → Bool} {word : List Char}
    (h : ∀ c ∈ cs, split c = false) :
    runsBetween split word cs = if cs = [] ∧ word = [] then [] else [word.reverse ++ cs] := by
  induction cs generalizing word with
  | nil => simp [runsBetween]
  | cons c cs ih =>
      obtain ⟨hc, hcs⟩ := List.forall_mem_cons.mp h
      rw [runsBetween, if_neg (by simp [hc]), ih hcs]
      simp

theorem words_append_cons (hc : isBlank c = true) (cs ds : List Char) :
    words (cs ++ c :: ds) = words cs ++ words ds :=
  runsBetween_append_cons hc [] cs ds

theorem words_gap_append (h : IsGap gap) : words (gap ++ cs) = words cs := by
  induction gap with
  | nil => rfl
  | cons c gap ih =>
      obtain ⟨hc, hgap⟩ := isGap_cons_iff.mp h
      exact (words_append_cons hc [] (gap ++ cs)).trans (ih hgap)

theorem words_append (h : IsGap gap) (hne : gap ≠ []) (cs ds : List Char) :
    words (cs ++ (gap ++ ds)) = words cs ++ words ds := by
  obtain ⟨c, gap, rfl⟩ := List.exists_cons_of_ne_nil hne
  obtain ⟨hc, hgap⟩ := isGap_cons_iff.mp h
  rw [List.cons_append, words_append_cons hc, words_gap_append hgap]

theorem words_append_gap (h : IsGap gap) (cs : List Char) : words (cs ++ gap) = words cs := by
  by_cases hne : gap = []
  · rw [hne, List.append_nil]
  · have hwords := words_append h hne cs []
    rw [List.append_nil] at hwords
    exact hwords.trans (List.append_nil _)

theorem words_of_isGap (h : IsGap gap) : words gap = [] :=
  words_append_gap h []

theorem words_of_isRun (h : IsRun w) : words w = [w] := by
  rw [words, runsBetween_of_forall h.solid]
  simp [h.ne_nil]

theorem Spaced.words_eq (h : Spaced ws cs) : words cs = ws := by
  induction h with
  | run hw => exact words_of_isRun hw
  | cons hw hgap hne hrest ih => rw [words_append hgap hne, words_of_isRun hw, ih]; rfl

/-- The words of a text stand in it with blanks between them. -/
theorem exists_spaced_words (hne : words cs ≠ []) :
    ∃ lead body trail, IsGap lead ∧ IsGap trail ∧ cs = lead ++ (body ++ trail) ∧
      Spaced (words cs) body := by
  rcases isGap_or_exists_spaced cs with hgap | ⟨lead, body, trail, ws, hlead, htrail, rfl, hbody⟩
  · exact absurd (words_of_isGap hgap) hne
  · refine ⟨lead, body, trail, hlead, htrail, rfl, ?_⟩
    rwa [words_gap_append hlead, words_append_gap htrail, hbody.words_eq]

theorem words_eq_nil_iff : words cs = [] ↔ IsGap cs := by
  refine ⟨fun h => ?_, words_of_isGap⟩
  rcases isGap_or_exists_spaced cs with hgap | ⟨lead, body, trail, ws, hlead, htrail, rfl, hbody⟩
  · exact hgap
  · rw [words_gap_append hlead, words_append_gap htrail, hbody.words_eq] at h
    rw [h] at hbody
    cases hbody

/-- Blanks may stand for others between two parts of a text. Where there is something on both
sides, blanks do not stand for nothing. -/
theorem words_respace {gap' : List Char} (hgap : IsGap gap) (hgap' : IsGap gap')
    (hjoin : (gap = [] ↔ gap' = []) ∨ cs = [] ∨ ds = []) :
    words (cs ++ (gap ++ ds)) = words (cs ++ (gap' ++ ds)) := by
  rcases hjoin with hboth | rfl | rfl
  · by_cases hnone : gap = []
    · rw [hnone, hboth.mp hnone]
    · rw [words_append hgap hnone, words_append hgap' (mt hboth.mpr hnone)]
  · rw [List.nil_append, List.nil_append, words_gap_append hgap, words_gap_append hgap']
  · rw [List.append_nil, List.append_nil, words_append_gap hgap, words_append_gap hgap']

/-! ## Ends -/

theorem isTight_nil : IsTight [] :=
  ⟨by simp, by simp⟩

namespace IsTight

theorem eq_nil_of_gap_append (h : IsTight (gap ++ cs)) (hgap : IsGap gap) : gap = [] := by
  cases gap with
  | nil => rfl
  | cons c gap =>
      have hc := h.head c rfl
      rw [hgap c List.mem_cons_self] at hc
      cases hc

theorem eq_nil_of_append_gap (h : IsTight (cs ++ gap)) (hgap : IsGap gap) : gap = [] := by
  rcases List.eq_nil_or_concat gap with hnil | ⟨front, c, rfl⟩
  · exact hnil
  · have hc := h.last c (by simp [← List.append_assoc])
    rw [hgap c (by simp)] at hc
    cases hc

/-- A text without blanks at its ends is words with blanks between them. -/
theorem spaced (h : IsTight cs) (hne : cs ≠ []) : Spaced (words cs) cs := by
  have hwords : words cs ≠ [] := by
    intro hnil
    have hgap := words_eq_nil_iff.mp hnil
    rw [← List.append_nil cs] at h
    exact hne (h.eq_nil_of_gap_append hgap)
  obtain ⟨lead, body, trail, hlead, htrail, heq, hbody⟩ := exists_spaced_words hwords
  rw [heq] at h
  have hnotrail : trail = [] := by
    rw [← List.append_assoc] at h
    exact h.eq_nil_of_append_gap htrail
  rw [h.eq_nil_of_gap_append hlead, hnotrail, List.nil_append, List.append_nil] at heq
  rwa [← heq] at hbody

end IsTight

theorem dropWhile_isBlank (hgap : IsGap gap) (h : ∀ c ∈ cs.head?, isBlank c = false) :
    (gap ++ cs).dropWhile isBlank = cs := by
  rw [List.dropWhile_append_of_pos hgap]
  cases cs with
  | nil => rfl
  | cons c cs => exact List.dropWhile_cons_of_neg (by simp [h c rfl])

/-- Trimming leaves what stands between the blanks at the ends. -/
theorem trim_surrounded (hlead : IsGap lead) (htrail : IsGap trail) (h : IsTight cs) :
    trim (lead ++ (cs ++ trail)) = cs := by
  have hreverse : IsGap trail.reverse := fun c hc => htrail c (List.mem_reverse.mp hc)
  by_cases hne : cs = []
  · have hall : IsGap (lead ++ trail) := isGap_append_iff.mpr ⟨hlead, htrail⟩
    have hdrop : (lead ++ trail).dropWhile isBlank = [] := by
      simpa using dropWhile_isBlank hall isTight_nil.head
    rw [hne, List.nil_append, trim, hdrop]
    rfl
  · have hhead : ∀ c ∈ (cs ++ trail).head?, isBlank c = false := by
      rw [List.head?_append_of_ne_nil _ hne]
      exact h.head
    have hlast : ∀ c ∈ cs.reverse.head?, isBlank c = false := by
      rw [List.head?_reverse]
      exact h.last
    rw [trim, dropWhile_isBlank hlead hhead, trimEnd, List.reverse_append,
      dropWhile_isBlank hreverse hlast, List.reverse_reverse]

theorem IsTight.trim_eq (h : IsTight cs) : trim cs = cs := by
  have htrim := trim_surrounded isGap_nil isGap_nil h
  rwa [List.nil_append, List.append_nil] at htrim

/-- Trimming takes away the blanks at the ends, and all of them. -/
theorem exists_trim (cs : List Char) :
    ∃ lead trail, IsGap lead ∧ IsGap trail ∧ cs = lead ++ (trim cs ++ trail) ∧
      IsTight (trim cs) := by
  rcases isGap_or_exists_spaced cs with hgap | ⟨lead, body, trail, ws, hlead, htrail, heq, hbody⟩
  · have htrim := trim_surrounded hgap isGap_nil isTight_nil
    rw [List.append_nil, List.append_nil] at htrim
    exact ⟨cs, [], hgap, isGap_nil, by simp [htrim], htrim ▸ isTight_nil⟩
  · have htrim := trim_surrounded hlead htrail hbody.isTight
    rw [← heq] at htrim
    exact ⟨lead, trail, hlead, htrail, by rw [htrim]; exact heq, htrim ▸ hbody.isTight⟩

theorem words_trim (cs : List Char) : words (trim cs) = words cs := by
  obtain ⟨lead, trail, hlead, htrail, heq, -⟩ := exists_trim cs
  conv_rhs => rw [heq, words_gap_append hlead, words_append_gap htrail]

/-- A text with one word is that word and blanks at the ends. -/
theorem trim_eq_of_words (h : words cs = [w]) : trim cs = w := by
  have hne : trim cs ≠ [] := by
    intro hnil
    rw [← words_trim, hnil] at h
    cases h
  obtain ⟨lead, trail, -, -, -, htight⟩ := exists_trim cs
  have hspaced := htight.spaced hne
  rw [words_trim, h] at hspaced
  generalize trim cs = ds at hspaced
  cases hspaced with
  | run => rfl
  | cons _ _ _ hrest => cases hrest

end Rowsmith.Text
