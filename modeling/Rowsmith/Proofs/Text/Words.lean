/-
# Snake-case names of words

A name in a source text is a word: it starts with a letter or a low line and goes
on with letters, digits and marks. Its snake-case form has such characters too,
but it leaves out the low lines at the start, and may start with a digit or be
empty. `isWord_snakeCase_iff` says when it is a word again.
-/

import Mathlib.Data.List.Chain
import Mathlib.Data.List.Sort
import Mathlib.Data.List.TakeWhile
import Mathlib.Tactic.MkIffOfInductiveProp
import Rowsmith.Proofs.Text.SnakeCase
import Rowsmith.Text.NameCharacter

namespace Rowsmith.Text

/-- The text may be a name in a source text, keywords included. -/
def IsWord (s : String) : Prop :=
  isWord s.toList = true

instance (s : String) : Decidable (IsWord s) :=
  inferInstanceAs (Decidable (isWord s.toList = true))

theorem isWord_iff {cs : List Char} :
    isWord cs = true ↔
      (∃ c, cs.head? = some c ∧ isNameStart c = true) ∧ ∀ c ∈ cs.tail, isNameContinue c = true := by
  cases cs with
  | nil => simp [isWord]
  | cons c cs => simp [isWord]

/-! ## Sorted runs -/

namespace CodePoints

/-- The bounds of the runs do not decrease. -/
def IsSorted (s : CodePoints) : Prop :=
  s.bounds.toList.Pairwise (· ≤ ·)

variable {s : CodePoints}

theorem IsSorted.getD_le (hs : s.IsSorted) {i j : Nat} (hij : i ≤ j) (hj : j < s.bounds.size) :
    s.bounds.getD i 0 ≤ s.bounds.getD j 0 := by
  rcases Nat.lt_or_eq_of_le hij with hlt | rfl
  · have hle := List.pairwise_iff_getElem.mp hs i j (by simpa using by omega)
      (by simpa using hj) hlt
    simpa [Array.getD, hj, Nat.lt_trans hlt hj] using hle
  · exact Nat.le_refl _

theorem runs_eq : s.runs = s.bounds.toList.length / 2 := by
  rw [Array.length_toList, runs]

theorem first_eq (i : Nat) : s.first i = s.bounds.toList.getD (2 * i) 0 := by
  rw [List.getD_eq_getElem?_getD, Array.getElem?_toList, first, Array.getD_eq_getD_getElem?]

theorem last_eq (i : Nat) : s.last i = s.bounds.toList.getD (2 * i + 1) 0 := by
  rw [List.getD_eq_getElem?_getD, Array.getElem?_toList, last, Array.getD_eq_getD_getElem?]

/-- Bisection finds how many runs start at or before `n`. -/
theorem IsSorted.bisect_spec (hs : s.IsSorted) {n lo hi : Nat} (hlo : lo ≤ hi) (hhi : hi ≤ s.runs)
    (hbefore : ∀ i, i < lo → s.first i ≤ n) (hafter : ∀ i, hi ≤ i → i < s.runs → n < s.first i) :
    (∀ i, i < s.bisect n lo hi → s.first i ≤ n) ∧ s.bisect n lo hi ≤ s.runs ∧
      ∀ i, s.bisect n lo hi ≤ i → i < s.runs → n < s.first i := by
  have hmono : ∀ i j, i ≤ j → j < s.runs → s.first i ≤ s.first j := by
    intro i j hij hj
    rw [runs] at hj
    exact hs.getD_le (by omega) (by omega)
  fun_induction bisect s n lo hi with
  | case1 lo hi hlt mid hmid ih =>
      apply ih (by omega) hhi _ hafter
      intro i hi'
      exact Nat.le_trans (hmono i mid (by omega) (by omega)) hmid
  | case2 lo hi hlt mid hmid ih =>
      apply ih (by omega) (by omega) hbefore
      intro i hi' hruns
      exact Nat.lt_of_lt_of_le (by omega) (hmono mid i hi' hruns)
  | case3 lo hi hlt =>
      obtain rfl : lo = hi := by omega
      exact ⟨hbefore, hhi, hafter⟩

/-- A code point lies in a sorted set when it lies between the bounds of a run. -/
theorem IsSorted.contains_iff (hs : s.IsSorted) {n : Nat} :
    s.contains n = true ↔ ∃ i, i < s.runs ∧ s.first i ≤ n ∧ n ≤ s.last i := by
  obtain ⟨hbefore, hruns, hafter⟩ := hs.bisect_spec (Nat.zero_le s.runs) (Nat.le_refl _)
    (fun i hi => absurd hi (Nat.not_lt_zero i)) (fun i hi hi' => absurd hi' (Nat.not_lt.mpr hi))
    (n := n)
  simp only [contains, ne_eq, Bool.and_eq_true, decide_eq_true_eq]
  constructor
  · rintro ⟨hne, hlast⟩
    exact ⟨_, by omega, hbefore _ (by omega), hlast⟩
  · rintro ⟨i, hi, hfirst, hlast⟩
    have hlt : i < s.bisect n 0 s.runs := by
      by_contra hge
      exact absurd (hafter i (by omega) hi) (by omega)
    have hsize : s.runs = s.bounds.size / 2 := rfl
    exact ⟨by omega, Nat.le_trans hlast (hs.getD_le (by omega) (by omega))⟩

/-- Whether none of the numbers is less than the one before it, the first not less than `a`. -/
def ascends (a : Nat) : List Nat → Bool
  | [] => true
  | b :: rest => a.ble b && ascends b rest

/-- Whether each of the ranges lies in one of the runs with the given bounds. The
ranges have to come in the order of the runs. -/
def coversAll : List Nat → List (Nat × Nat) → Bool
  | first :: last :: rest, ranges =>
    coversAll rest (ranges.dropWhile fun r => first.ble r.1 && r.2.ble last)
  | _, ranges => ranges.isEmpty

/-- Whether the code points from `a` to `b` lie in none of the runs with the given
bounds. -/
def avoids (a b : Nat) : List Nat → Bool
  | first :: last :: rest => (b.blt first || last.blt a) && avoids a b rest
  | _ => true

theorem isChain_of_ascends {a : Nat} {ns : List Nat} (h : ascends a ns = true) :
    (a :: ns).IsChain (· ≤ ·) := by
  induction ns generalizing a with
  | nil => exact .singleton a
  | cons b rest ih =>
      obtain ⟨hle, hrest⟩ := Bool.and_eq_true_iff.mp h
      exact .cons_cons (Nat.le_of_ble_eq_true hle) (ih hrest)

theorem isSorted_of_ascends (h : ascends 0 s.bounds.toList = true) : s.IsSorted :=
  (List.pairwise_cons.mp (isChain_of_ascends h).pairwise).2

theorem exists_of_coversAll {bounds : List Nat} {ranges : List (Nat × Nat)}
    (h : coversAll bounds ranges = true) {r : Nat × Nat} (hr : r ∈ ranges) :
    ∃ i, i < bounds.length / 2 ∧ bounds.getD (2 * i) 0 ≤ r.1 ∧
      r.2 ≤ bounds.getD (2 * i + 1) 0 := by
  fun_induction coversAll bounds ranges with
  | case1 first last rest ranges ih =>
      rw [← List.takeWhile_append_dropWhile (l := ranges)
        (p := fun r => first.ble r.1 && r.2.ble last), List.mem_append] at hr
      rcases hr with hhere | hrest
      · have hin := List.mem_takeWhile_imp hhere
        rw [Bool.and_eq_true, Nat.ble_eq, Nat.ble_eq] at hin
        exact ⟨0, by simp, by simpa using hin⟩
      · obtain ⟨i, hi, hbounds⟩ := ih h hrest
        refine ⟨i + 1, ?_, by simpa [Nat.mul_add] using hbounds⟩
        rw [List.length_cons, List.length_cons]
        omega
  | case2 bounds ranges hshort =>
      rw [List.isEmpty_iff.mp h] at hr
      cases hr

/-- Where a list has a run, it starts with one. -/
theorem exists_run_of_lt {bounds : List Nat} {i : Nat} (hi : i < bounds.length / 2) :
    ∃ first last rest, bounds = first :: last :: rest := by
  match bounds, hi with
  | [], hi => simp at hi
  | [_], hi => simp at hi
  | first :: last :: rest, _ => exact ⟨first, last, rest, rfl⟩

theorem lt_or_lt_of_avoids {a b : Nat} {bounds : List Nat} (h : avoids a b bounds = true)
    {i : Nat} (hi : i < bounds.length / 2) :
    b < bounds.getD (2 * i) 0 ∨ bounds.getD (2 * i + 1) 0 < a := by
  fun_induction avoids a b bounds generalizing i with
  | case1 first last rest ih =>
      obtain ⟨hhere, hrest⟩ := Bool.and_eq_true_iff.mp h
      cases i with
      | zero => simpa [Nat.blt_eq] using hhere
      | succ i =>
          have hi' : i < rest.length / 2 := by
            rw [List.length_cons, List.length_cons] at hi
            omega
          simpa [Nat.mul_add] using ih hrest hi'
  | case2 bounds hshort =>
      obtain ⟨first, last, rest, rfl⟩ := exists_run_of_lt hi
      exact absurd rfl (hshort first last rest)

theorem IsSorted.contains_of_coversAll (hs : s.IsSorted) {ranges : List (Nat × Nat)}
    (h : coversAll s.bounds.toList ranges = true) {r : Nat × Nat} (hr : r ∈ ranges) {n : Nat}
    (hfirst : r.1 ≤ n) (hlast : n ≤ r.2) : s.contains n = true := by
  obtain ⟨i, hi, hbefore, hafter⟩ := exists_of_coversAll h hr
  rw [← runs_eq] at hi
  rw [← first_eq] at hbefore
  rw [← last_eq] at hafter
  exact hs.contains_iff.mpr ⟨i, hi, Nat.le_trans hbefore hfirst, Nat.le_trans hlast hafter⟩

theorem IsSorted.not_contains_of_avoids (hs : s.IsSorted) {a b n : Nat}
    (h : avoids a b s.bounds.toList = true) (ha : a ≤ n) (hb : n ≤ b) :
    ¬ s.contains n = true := by
  intro hcontains
  obtain ⟨i, hi, hfirst, hlast⟩ := hs.contains_iff.mp hcontains
  rw [runs_eq] at hi
  have hout := lt_or_lt_of_avoids h hi
  rw [← first_eq, ← last_eq] at hout
  omega

end CodePoints

open CodePoints

/-! ## The tables -/

/-- The runs with the given bounds. -/
def rangesOf : List Nat → List (Nat × Nat)
  | first :: last :: rest => (first, last) :: rangesOf rest
  | _ => []

/-- The code points that have a form of their own by a run, as ranges: one range when
no code point of the run is passed over. -/
def sourcesOf (run : Nat × Nat × Nat × Nat) : List (Nat × Nat) :=
  let (first, last, step, _) := run
  if step = 1 then [(first, last)]
  else (List.range ((last - first) / step + 1)).map fun i => (first + i * step, first + i * step)

/-- The range of the forms that a run gives. -/
def formsOf (run : Nat × Nat × Nat × Nat) : Nat × Nat :=
  let (first, last, _, form) := run
  (form, form + (last - first))

/-- The runs whose forms may be in names, that is all but the run of the letters in
circles. -/
def letterForms : List (Nat × Nat × Nat × Nat) :=
  lowercaseForms.filter fun run => run.1 ≠ 0x24B6

/-- What the tables of names and of lower-case forms have to do with each other. -/
@[mk_iff]
structure TablesAgree : Prop where
  startsAscend : ascends 0 nameStartRuns.bounds.toList = true
  continuesAscend : ascends 0 nameContinueRuns.bounds.toList = true
  starts : coversAll nameContinueRuns.bounds.toList (rangesOf nameStartRuns.bounds.toList) = true
  sources : coversAll nameStartRuns.bounds.toList (letterForms.flatMap sourcesOf) = true
  forms : coversAll nameStartRuns.bounds.toList
    (((letterForms.map formsOf).filter fun r => 0x80 ≤ r.1).insertionSort
      fun a b => a.1 ≤ b.1) = true
  circled : avoids 0x24B6 0x24CF nameContinueRuns.bounds.toList = true
  circledRun : ∀ run ∈ lowercaseForms, run.1 = 0x24B6 → run.2.1 = 0x24CF

theorem tablesAgree : TablesAgree := by
  rw [tablesAgree_iff]
  decide +kernel

theorem isSorted_nameStartRuns : nameStartRuns.IsSorted :=
  isSorted_of_ascends tablesAgree.startsAscend

theorem isSorted_nameContinueRuns : nameContinueRuns.IsSorted :=
  isSorted_of_ascends tablesAgree.continuesAscend

/-! ## Characters that names start with -/

theorem exists_mem_rangesOf {bounds : List Nat} {i : Nat} (hi : i < bounds.length / 2) :
    (bounds.getD (2 * i) 0, bounds.getD (2 * i + 1) 0) ∈ rangesOf bounds := by
  fun_induction rangesOf bounds generalizing i with
  | case1 first last rest ih =>
      cases i with
      | zero => simp
      | succ i =>
          have hi' : i < rest.length / 2 := by
            rw [List.length_cons, List.length_cons] at hi
            omega
          simpa [Nat.mul_add] using .inr (ih hi')
  | case2 bounds hshort =>
      obtain ⟨first, last, rest, rfl⟩ := exists_run_of_lt hi
      exact absurd rfl (hshort first last rest)

/-- A character that names may start with is one that they may go on with. -/
theorem isNameContinue_of_isNameStart {c : Char} (h : isNameStart c = true) :
    isNameContinue c = true := by
  unfold isNameStart at h
  unfold isNameContinue
  split at h
  next hascii =>
    rw [if_pos hascii]
    rw [Bool.or_eq_true] at h ⊢
    exact h.imp_left fun halpha => by simp [Char.isAlphanum, halpha]
  next hhigh =>
    rw [if_neg hhigh]
    obtain ⟨i, hi, hfirst, hlast⟩ := isSorted_nameStartRuns.contains_iff.mp h
    rw [runs_eq] at hi
    rw [first_eq] at hfirst
    rw [last_eq] at hlast
    exact isSorted_nameContinueRuns.contains_of_coversAll tablesAgree.starts
      (exists_mem_rangesOf hi) hfirst hlast

theorem IsWord.isNameContinue {s : String} (h : IsWord s) :
    ∀ c ∈ s.toList, isNameContinue c = true := by
  intro c hc
  unfold IsWord at h
  cases hs : s.toList with
  | nil => simp [hs] at hc
  | cons d ds =>
      rw [hs, isWord, Bool.and_eq_true, List.all_eq_true] at h
      rw [hs] at hc
      rcases List.mem_cons.mp hc with rfl | hc
      · exact isNameContinue_of_isNameStart h.1
      · exact h.2 c hc

/-! ## Lower-case forms -/

/-- Whether `n` has a form by a run. -/
def HasForm (n : Nat) (run : Nat × Nat × Nat × Nat) : Prop :=
  run.1 ≤ n ∧ n ≤ run.2.1 ∧ (n - run.1) % run.2.2.1 = 0

theorem lowercaseForm_cases (n : Nat) (runs : List (Nat × Nat × Nat × Nat)) :
    lowercaseForm n runs = n ∨
      ∃ run ∈ runs, HasForm n run ∧ lowercaseForm n runs = run.2.2.2 + (n - run.1) := by
  induction runs with
  | nil => exact .inl rfl
  | cons run runs ih =>
      obtain ⟨first, last, step, form⟩ := run
      rw [lowercaseForm]
      split
      next hhit =>
        simp only [Bool.and_eq_true, decide_eq_true_eq, beq_iff_eq] at hhit
        exact .inr ⟨_, List.mem_cons_self, ⟨hhit.1.1, hhit.1.2, hhit.2⟩, rfl⟩
      next =>
        rcases ih with hsame | ⟨run, hrun, hform⟩
        · exact .inl hsame
        · exact .inr ⟨run, List.mem_cons_of_mem _ hrun, hform⟩

theorem exists_mem_sourcesOf {n : Nat} {run : Nat × Nat × Nat × Nat} (h : HasForm n run) :
    ∃ r ∈ sourcesOf run, r.1 ≤ n ∧ n ≤ r.2 := by
  obtain ⟨first, last, step, form⟩ := run
  obtain ⟨hfirst, hlast, hstep⟩ := h
  dsimp only at hfirst hlast hstep
  rw [sourcesOf]
  split
  next => exact ⟨_, List.mem_singleton_self _, hfirst, hlast⟩
  next =>
    have hle : (n - first) / step ≤ (last - first) / step :=
      Nat.div_le_div_right (by omega)
    have hmul : (n - first) / step * step = n - first :=
      Nat.div_mul_cancel (Nat.dvd_of_mod_eq_zero hstep)
    refine ⟨_, List.mem_map_of_mem (List.mem_range.mpr (Nat.lt_succ_of_le hle)), ?_⟩
    rw [hmul, Nat.add_sub_cancel' hfirst]
    exact ⟨Nat.le_refl n, Nat.le_refl n⟩

/-- A run whose forms are letters below U+0080 gives no other form. -/
theorem form_ge_of_hasForm {n : Nat} {run : Nat × Nat × Nat × Nat} (hkind : isNameRun run = true)
    (hform : HasForm n run) (hhigh : 0x80 ≤ run.2.2.2 + (n - run.1)) : 0x80 ≤ run.2.2.2 := by
  obtain ⟨first, last, step, form⟩ := run
  obtain ⟨hfirst, hlast, -⟩ := hform
  simp only [isNameRun, Bool.or_eq_true, Bool.and_eq_true, decide_eq_true_eq] at hkind
  dsimp only at hfirst hlast hhigh ⊢
  omega

/-- A set that covers the forms of some runs has the form of each code point by them. -/
theorem CodePoints.IsSorted.contains_form {s : CodePoints} (hs : s.IsSorted)
    {runs : List (Nat × Nat × Nat × Nat)}
    (h : coversAll s.bounds.toList
      (((runs.map formsOf).filter fun r => 0x80 ≤ r.1).insertionSort
        fun a b => a.1 ≤ b.1) = true)
    {n : Nat} {run : Nat × Nat × Nat × Nat} (hrun : run ∈ runs) (hform : HasForm n run)
    (hhigh : 0x80 ≤ run.2.2.2) : s.contains (run.2.2.2 + (n - run.1)) = true := by
  have hmem : formsOf run ∈ ((runs.map formsOf).filter fun r => 0x80 ≤ r.1).insertionSort
      fun a b => a.1 ≤ b.1 :=
    (List.mem_insertionSort _).mpr
      (List.mem_filter.mpr ⟨List.mem_map_of_mem hrun, decide_eq_true hhigh⟩)
  obtain ⟨first, last, step, form⟩ := run
  obtain ⟨hfirst, hlast, -⟩ := hform
  dsimp only at hfirst hlast
  exact hs.contains_of_coversAll h hmem (Nat.le_add_right form _)
    (Nat.add_le_add_left (Nat.sub_le_sub_right hlast first) form)

/-- The form of a code point of a name is that of a character, and of a small letter below
U+0080. -/
theorem ofNat_lowercaseForm {n : Nat} (hn : IsNameCode n) :
    (Char.ofNat (lowercaseForm n lowercaseForms)).toNat = lowercaseForm n lowercaseForms ∧
      (lowercaseForm n lowercaseForms < 0x80 →
        (Char.ofNat (lowercaseForm n lowercaseForms)).isLower = true) := by
  obtain ⟨hvalid, hrange⟩ := isNameCode_lowercaseForm hn all_isNameRun_lowercaseForms
  have hcode : (Char.ofNat (lowercaseForm n lowercaseForms)).toNat =
      lowercaseForm n lowercaseForms := by
    rw [Char.ofNat, dif_pos hvalid]
    rfl
  exact ⟨hcode, fun hascii => isLower_iff_toNat.mpr (by omega)⟩

/-- A character above U+007F that may be in a name and has a form of its own is one
that names may start with, and so is the form. -/
theorem isNameStart_of_hasForm {n : Nat} (hn : IsNameCode n)
    (hcontinue : nameContinueRuns.contains n = true) {run : Nat × Nat × Nat × Nat}
    (hrun : run ∈ lowercaseForms) (hform : HasForm n run)
    (heq : lowercaseForm n lowercaseForms = run.2.2.2 + (n - run.1)) :
    nameStartRuns.contains n = true ∧
      isNameStart (Char.ofNat (lowercaseForm n lowercaseForms)) = true := by
  have hletter : run ∈ letterForms := by
    refine List.mem_filter.mpr ⟨hrun, decide_eq_true fun hcircled => ?_⟩
    exact isSorted_nameContinueRuns.not_contains_of_avoids tablesAgree.circled
      (hcircled ▸ hform.1) (tablesAgree.circledRun run hrun hcircled ▸ hform.2.1) hcontinue
  obtain ⟨r, hr, hbefore, hafter⟩ := exists_mem_sourcesOf hform
  have hsource := isSorted_nameStartRuns.contains_of_coversAll tablesAgree.sources
    (List.mem_flatMap.mpr ⟨run, hletter, hr⟩) hbefore hafter
  refine ⟨hsource, ?_⟩
  obtain ⟨hcode, hlower⟩ := ofNat_lowercaseForm hn
  have hkind := List.all_eq_true.mp all_isNameRun_lowercaseForms run hrun
  unfold isNameStart
  rw [hcode]
  by_cases hascii : lowercaseForm n lowercaseForms < 0x80
  · rw [if_pos hascii, Bool.or_eq_true]
    exact .inl (Bool.or_eq_true_iff.mpr (.inr (hlower hascii)))
  · have hhigh : 0x80 ≤ run.2.2.2 := form_ge_of_hasForm hkind hform (by omega)
    rw [if_neg hascii, heq]
    exact isSorted_nameStartRuns.contains_form tablesAgree.forms hletter hform hhigh

theorem toLower_cases {c : Char} (hascii : c.toNat < 0x80) :
    c.toLower = c ∨ isNameStart c = true ∧ isNameStart c.toLower = true := by
  have hall : ∀ n : Fin 0x80, (Char.ofNat n).toLower = Char.ofNat n ∨
      isNameStart (Char.ofNat n) = true ∧ isNameStart (Char.ofNat n).toLower = true := by
    decide
  simpa using hall ⟨c.toNat, hascii⟩

/-- The letters that no run changes, and the characters that they are changed to. -/
theorem isNameStart_special :
    isNameStart (Char.ofNat 0x130) = true ∧ isNameContinue (Char.ofNat 0x307) = true ∧
      isNameStart 'Σ' = true ∧ isNameStart 'ς' = true := by
  decide +kernel

/-- Changing a character of a name to lower case leaves it as it is, or makes of a
character that names may start with one or two others, of which names may start
with the first. -/
theorem lowercase_cases {c : Char} (hc : isNameContinue c = true) :
    lowercase c = [c] ∨ isNameStart c = true ∧ ∃ d ds, lowercase c = d :: ds ∧
      isNameStart d = true ∧ ∀ e ∈ ds, isNameContinue e = true := by
  unfold lowercase
  split
  next hascii =>
    rcases toLower_cases hascii with hsame | ⟨hstart, hlower⟩
    · exact .inl (by rw [hsame])
    · exact .inr ⟨hstart, _, [], rfl, hlower, by simp⟩
  next hhigh =>
    split
    next hdotted =>
      obtain rfl : c = Char.ofNat 0x130 := by rw [← hdotted, Char.ofNat_toNat]
      obtain ⟨hstart, hdot, -⟩ := isNameStart_special
      refine .inr ⟨hstart, 'i', [Char.ofNat 0x307], rfl, by decide, fun e he => ?_⟩
      rwa [List.mem_singleton.mp he]
    next =>
      rw [isNameContinue, if_neg hhigh] at hc
      rcases lowercaseForm_cases c.toNat lowercaseForms with hsame | ⟨run, hrun, hform, heq⟩
      · exact .inl (by rw [hsame, Char.ofNat_toNat])
      · obtain ⟨hstart, hlower⟩ := isNameStart_of_hasForm ⟨c.valid, .inr (Nat.not_lt.mp hhigh)⟩
          hc hrun hform heq
        exact .inr ⟨by rw [isNameStart, if_neg hhigh]; exact hstart, _, [], rfl, hlower, by simp⟩

/-! ## Words of a name -/

theorem flatten_runsBetween (split : Char → Bool) (word cs : List Char) :
    (runsBetween split word cs).flatten = word.reverse ++ cs.filter fun c => !split c := by
  fun_induction runsBetween split word cs with
  | case1 word hempty => simp [List.isEmpty_iff.mp hempty]
  | case2 word hsome => simp
  | case3 word c cs hsplit hempty ih => simp [ih, hsplit, List.isEmpty_iff.mp hempty]
  | case4 word c cs hsplit hsome ih => simp [ih, hsplit]
  | case5 word c cs hsplit ih => simp [ih, hsplit]

theorem flatten_cutWords (case : WordCase) (word cs : List Char) :
    (cutWords case word cs).flatten = word.reverse ++ cs := by
  fun_induction cutWords case word cs with
  | case1 case word hempty => simp [List.isEmpty_iff.mp hempty]
  | case2 case word hsome => simp
  | case3 case word c => simp
  | case4 case word c next rest hcut ih => simp [ih]
  | case5 case word c next rest hcut hcut' ih => simp [ih]
  | case6 case word c next rest hcut hcut' ih => simp [ih]

/-- The words of a name are its letters and numbers, in order. -/
theorem flatten_nameWords (cs : List Char) :
    (nameWords cs).flatten = cs.filter isAlphanumeric := by
  have hruns (runs : List (List Char)) :
      (runs.flatMap (cutWords .none [])).flatten = runs.flatten := by
    induction runs with
    | nil => rfl
    | cons run runs ih => simp [ih, flatten_cutWords]
  rw [nameWords, hruns, flatten_runsBetween]
  simp

theorem mem_of_mem_nameWords {cs w : List Char} {c : Char} (hw : w ∈ nameWords cs) (hc : c ∈ w) :
    c ∈ cs := by
  have hmem : c ∈ (nameWords cs).flatten := List.mem_flatten.mpr ⟨w, hw, hc⟩
  rw [flatten_nameWords] at hmem
  exact List.mem_of_mem_filter hmem

/-- Cutting a run gives no empty word; a word with a capital at its end is not
empty. -/
theorem ne_nil_of_mem_cutWords {case : WordCase} {word cs w : List Char}
    (hcase : case = .upper → word ≠ []) (hw : w ∈ cutWords case word cs) : w ≠ [] := by
  fun_induction cutWords case word cs with
  | case1 case word hempty => cases hw
  | case2 case word hsome =>
      obtain rfl := List.mem_singleton.mp hw
      simpa using hsome
  | case3 case word c =>
      obtain rfl := List.mem_singleton.mp hw
      simp
  | case4 case word c next rest hcut ih =>
      rcases List.mem_cons.mp hw with rfl | hw
      · simp
      · exact ih (by simp) hw
  | case5 case word c next rest hcut hcut' ih =>
      rcases List.mem_cons.mp hw with rfl | hw
      · simpa using hcase hcut'.1
      · exact ih (by simp) hw
  | case6 case word c next rest hcut hcut' ih => exact ih (by simp) hw

theorem ne_nil_of_mem_nameWords {cs w : List Char} (hw : w ∈ nameWords cs) : w ≠ [] := by
  obtain ⟨run, -, hw⟩ := List.mem_flatMap.mp hw
  exact ne_nil_of_mem_cutWords (by simp) hw

theorem lowercaseWord_ne_nil {word : List Char} (h : word ≠ []) : lowercaseWord word ≠ [] := by
  fun_cases lowercaseWord word with
  | case1 => exact absurd rfl h
  | case2 => exact List.cons_ne_nil _ _
  | case3 c cs =>
      have hlower : lowercase c ≠ [] := by
        unfold lowercase
        split
        · exact List.cons_ne_nil _ _
        · split <;> exact List.cons_ne_nil _ _
      exact List.append_ne_nil_of_left_ne_nil hlower _

/-- The snake-case form of a name is empty exactly when there is no letter or number in it. -/
theorem snakeCase_eq_empty_iff {name : String} :
    snakeCase name = "" ↔ ∀ c ∈ name.toList, isAlphanumeric c = false := by
  have hfilter : (∀ c ∈ name.toList, isAlphanumeric c = false) ↔
      (nameWords name.toList).flatten = [] := by
    rw [flatten_nameWords]
    simp
  rw [hfilter]
  cases hwords : nameWords name.toList with
  | nil => simp [snakeCase, hwords]
  | cons w ws =>
      have hw : w ∈ nameWords name.toList := hwords ▸ List.mem_cons_self
      have hne := ne_nil_of_mem_nameWords hw
      refine iff_of_false (fun hempty => ?_) (by simp [hne])
      obtain ⟨d, ds, hlower⟩ := List.exists_cons_of_ne_nil (lowercaseWord_ne_nil hne)
      have hmem : d ∈ (snakeCase name).toList := by
        rw [snakeCase, hwords, String.toList_intercalate]
        exact mem_intercalate_of_mem List.mem_cons_self (by simp [hlower])
      rw [hempty] at hmem
      cases hmem

theorem isNameContinue_of_mem_lowercaseWord {word : List Char}
    (h : ∀ c ∈ word, isNameContinue c = true) :
    ∀ d ∈ lowercaseWord word, isNameContinue d = true := by
  intro d hd
  fun_induction lowercaseWord word with
  | case1 => cases hd
  | case2 =>
      rw [List.mem_singleton.mp hd]
      exact isNameContinue_of_isNameStart isNameStart_special.2.2.2
  | case3 c cs hsigma ih =>
      rcases List.mem_append.mp hd with hd | hd
      · have hc := h c List.mem_cons_self
        rcases lowercase_cases hc with hsame | ⟨-, e, es, heq, he, hes⟩
        · rw [hsame, List.mem_singleton] at hd
          exact hd ▸ hc
        · rw [heq] at hd
          rcases List.mem_cons.mp hd with rfl | hd
          · exact isNameContinue_of_isNameStart he
          · exact hes d hd
      · exact ih (fun c hc => h c (List.mem_cons_of_mem _ hc)) hd

/-- Names may start with a word in lower case exactly when they may with the
word. -/
theorem exists_head_lowercaseWord {c : Char} (hc : isNameContinue c = true) (cs : List Char) :
    ∃ d ds, lowercaseWord (c :: cs) = d :: ds ∧ isNameStart d = isNameStart c := by
  unfold lowercaseWord
  split
  next heq => cases heq
  next heq =>
    cases heq
    obtain ⟨-, -, hsigma, hfinal⟩ := isNameStart_special
    exact ⟨'ς', [], rfl, hfinal.trans hsigma.symm⟩
  next heq =>
    cases heq
    rcases lowercase_cases hc with hsame | ⟨hstart, d, ds, hlower, hd, -⟩
    · exact ⟨c, lowercaseWord cs, by rw [hsame]; rfl, rfl⟩
    · exact ⟨d, ds ++ lowercaseWord cs, by rw [hlower]; rfl, hd.trans hstart.symm⟩

/-- The characters of a snake-case form are those of names. -/
theorem isNameContinue_of_mem_snakeCase {name : String}
    (h : ∀ c ∈ name.toList, isNameContinue c = true) :
    ∀ c ∈ (snakeCase name).toList, isNameContinue c = true :=
  (forall_mem_snakeCase_iff (by decide)).mpr fun _ hw =>
    isNameContinue_of_mem_lowercaseWord fun c hc => h c (mem_of_mem_nameWords hw hc)

/-- The snake-case form of a name is a word exactly when its first letter or number
is one that names may start with. -/
theorem isWord_snakeCase_iff {name : String}
    (h : ∀ c ∈ name.toList, isNameContinue c = true) :
    IsWord (snakeCase name) ↔
      ∃ c, name.toList.find? isAlphanumeric = some c ∧ isNameStart c = true := by
  have hfirst : name.toList.find? isAlphanumeric = (nameWords name.toList).flatten.head? := by
    rw [flatten_nameWords, List.head?_filter]
  rw [hfirst, IsWord, isWord_iff]
  cases hwords : nameWords name.toList with
  | nil => simp [snakeCase, hwords]
  | cons w ws =>
      have hw : w ∈ nameWords name.toList := hwords ▸ List.mem_cons_self
      obtain ⟨c, cs, rfl⟩ := List.exists_cons_of_ne_nil (ne_nil_of_mem_nameWords hw)
      obtain ⟨d, ds, hlower, hstart⟩ := exists_head_lowercaseWord
        (h c (mem_of_mem_nameWords hw List.mem_cons_self)) cs
      have hhead : (snakeCase name).toList.head? = some d := by
        rw [snakeCase, hwords, String.toList_intercalate]
        cases ws <;> simp [hlower]
      simp only [hhead, List.flatten_cons, List.cons_append, List.head?_cons, Option.some.injEq,
        exists_eq_left', hstart]
      exact and_iff_left fun e he =>
        isNameContinue_of_mem_snakeCase h e (List.mem_of_mem_tail he)

end Rowsmith.Text
