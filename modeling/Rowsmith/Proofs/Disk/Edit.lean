/-
# What an operation changes

Every operation on a disk puts an entry at one location or takes the entry at
one location away; `Edit` says which, and on which terms: what is put stands in
a directory under a proper name, and a directory that goes is bare. All that a
run of operations keeps is derived from edits: that entries stand in directories
(`IsTree`), what the files hold, and where paths lead.
-/

import Mathlib.Data.List.Induction
import Mathlib.Logic.Function.Basic
import Mathlib.Logic.Relation
import Rowsmith.Proofs.Disk.Reach

namespace Rowsmith.Disk

open Rowsmith.Disk.Path

/-- What an entry holds if it is a file. -/
def Entry.content? : Entry → Option Content
  | directory => none
  | file content => some content

/-- What the file at the location `l` holds, if there is one. -/
def file? (d : Disk) (l : Location) : Option Content :=
  (d.entry? l).bind Entry.content?

theorem file?_eq_some_iff {d : Disk} {l : Location} {content : Content} :
    d.file? l = some content ↔ d.entry? l = some (.file content) := by
  unfold file?
  cases d.entry? l with
  | none => simp
  | some e => cases e <;> simp [Entry.content?]

theorem exists_entry?_of_mem {d : Disk} {l : Location} {e : Entry} (h : (l, e) ∈ d.entries) :
    ∃ e', d.entry? l = some e' := by
  rw [Disk.entry?]
  split
  · exact ⟨_, rfl⟩
  · rw [← Option.isSome_iff_exists, List.lookup_isSome_iff]
    exact ⟨(l, e), h, by simp⟩

theorem mem_entries {d : Disk} {l : Location} {e : Entry} (hl : l ≠ []) (h : d.entry? l = some e) :
    (l, e) ∈ d.entries := by
  have hempty : l.isEmpty = false := by simpa using hl
  rw [Disk.entry?, hempty, if_neg Bool.false_ne_true, List.lookup_eq_some_iff] at h
  obtain ⟨before, after, hentries, -⟩ := h
  simp [hentries]

/-- Every entry has a location, in the working directory, above it or below the root, and
stands in a directory. -/
structure IsTree (d : Disk) : Prop where
  named : ∀ l e, d.entry? l = some e → IsLocation l
  standing : ∀ l name e, d.entry? (l ++ [name]) = some e → d.entry? l = some .directory

/-- The disk `d'` is `d` with `e` at the location `l`. What is put there has a
name and stands in a directory, and a directory that goes is bare. -/
structure Edit (d d' : Disk) (l : Location) (e : Option Entry) : Prop where
  entry? : ∀ m, Disk.entry? d' m = if m = l then e else d.entry? m
  standing : ∀ x, e = some x → ∃ k name, l = k ++ [name] ∧ IsEntryName name ∧
    d.entry? k = some .directory
  bare : d.entry? l = some .directory → e ≠ some .directory →
    ∀ names, names ≠ [] → d.entry? (l ++ names) = none

/-! ## Trees -/

/-- A disk is a tree if each of its entries has a location and stands in a directory. -/
theorem isTree_of_entries {d : Disk}
    (h : ∀ x ∈ d.entries, IsLocation x.1 ∧ d.entry? x.1.dropLast = some .directory) :
    d.IsTree where
  named l e he := by
    by_cases hl : l = []
    · rw [hl]
      exact .working
    · exact (h _ (mem_entries hl he)).1
  standing l name e he := by
    simpa using (h _ (mem_entries (by simp) he)).2

/-- What leads on from an entry is a directory. -/
theorem IsTree.directory_of_append {d : Disk} (h : d.IsTree) {l names : Location} {e : Entry}
    (hne : names ≠ []) (he : d.entry? (l ++ names) = some e) : d.entry? l = some .directory := by
  induction names using List.reverseRecOn generalizing e with
  | nil => exact absurd rfl hne
  | append_singleton names name ih =>
      rw [← List.append_assoc] at he
      have hdirectory := h.standing _ _ _ he
      cases names with
      | nil => simpa using hdirectory
      | cons first rest => exact ih (by simp) hdirectory

namespace Edit

variable {d d' : Disk} {l : Location} {e : Option Entry}

theorem entry?_self (h : Edit d d' l e) : Disk.entry? d' l = e := by
  rw [h.entry?, if_pos rfl]

theorem entry?_of_ne (h : Edit d d' l e) {m : Location} (hm : m ≠ l) :
    Disk.entry? d' m = d.entry? m := by
  rw [h.entry?, if_neg hm]

theorem file?_eq (h : Edit d d' l e) :
    d'.file? = Function.update d.file? l (e.bind Entry.content?) := by
  funext m
  by_cases hm : m = l
  · subst hm
    rw [Function.update_self, file?, h.entry?_self]
  · rw [Function.update_of_ne hm, file?, h.entry?_of_ne hm, file?]

/-- An edit of directories changes no file. -/
theorem file?_eq_self (h : Edit d d' l e) (hold : ∀ content, d.entry? l ≠ some (.file content))
    (hnew : e.bind Entry.content? = none) : d'.file? = d.file? := by
  have hnone : d.file? l = none := by
    cases hfile : d.file? l with
    | none => rfl
    | some content => exact absurd (file?_eq_some_iff.mp hfile) (hold content)
  rw [h.file?_eq, hnew, ← hnone, Function.update_eq_self]

/-- Directories stay where they are but at the location of the edit. -/
theorem directory (h : Edit d d' l e) {m : Location} (hm : d.entry? m = some .directory)
    (hl : m = l → e = some .directory) : Disk.entry? d' m = some .directory := by
  by_cases heq : m = l
  · rw [heq, h.entry?_self, hl heq]
  · rw [h.entry?_of_ne heq, hm]

/-- A path leads on to where it led if its passes stay directories. -/
theorem reaches (h : Edit d d' l e) {p : String} (hp : d.Reaches p)
    (hl : l ∈ passes p → e = some .directory) : d'.Reaches p :=
  ⟨hp.1, fun m hm => h.directory (hp.2 m hm) fun heq => hl (heq ▸ hm)⟩

theorem isTree (h : Edit d d' l e) (htree : d.IsTree) : d'.IsTree where
  named m x hx := by
    rw [h.entry?] at hx
    split at hx
    next hm =>
      obtain ⟨k, last, rfl, hlast, hk⟩ := h.standing x hx
      rw [hm]
      exact .entry (htree.named k _ hk) hlast
    next => exact htree.named m x hx
  standing m name x hx := by
    rw [h.entry?] at hx
    split at hx
    next hm =>
      obtain ⟨k, last, hl, -, hk⟩ := h.standing x hx
      obtain ⟨rfl, -⟩ := List.append_inj' (hm.trans hl) rfl
      have hne : m ≠ l := by
        rintro rfl
        simpa using congrArg List.length hm
      rw [h.entry?_of_ne hne, hk]
    next =>
      -- what stands below the location of the edit keeps the directory there
      have hm := htree.standing m name x hx
      refine h.directory hm fun heq => ?_
      by_contra hgone
      have hbare := h.bare (heq ▸ hm) hgone [name] (by simp)
      rw [heq, hbare] at hx
      cases hx

end Edit

/-! ## Putting and erasing -/

theorem lookup_filter_ne (entries : List (Location × Entry)) (l m : Location) :
    (entries.filter fun x => x.1 ≠ l).lookup m = if m = l then none else entries.lookup m := by
  induction entries with
  | nil => simp
  | cons x entries ih =>
      obtain ⟨k, e⟩ := x
      by_cases hk : k = l
      · subst hk
        rw [List.filter_cons_of_neg (by simp), ih, List.lookup_cons]
        by_cases hm : m = k
        · simp [hm]
        · simp [hm, beq_false_of_ne hm]
      · rw [List.filter_cons_of_pos (by simpa using hk), List.lookup_cons, List.lookup_cons, ih]
        by_cases hm : m = k
        · subst hm
          simp [hk]
        · simp [beq_false_of_ne hm]

theorem entry?_put {d : Disk} {l : Location} (hl : l ≠ []) (e : Entry) (m : Location) :
    Disk.entry? (d.put l e) m = if m = l then some e else d.entry? m := by
  by_cases hm : m = []
  · simp [Disk.entry?, hm, hl.symm]
  · have hempty : m.isEmpty = false := by simpa using hm
    simp only [Disk.entry?, hempty, put, List.lookup_cons, lookup_filter_ne]
    by_cases heq : m = l
    · simp [heq]
    · simp [heq, beq_false_of_ne heq]

theorem entry?_erase {d : Disk} {l : Location} (hl : l ≠ []) (m : Location) :
    Disk.entry? (d.erase l) m = if m = l then none else d.entry? m := by
  by_cases hm : m = []
  · simp [Disk.entry?, hm, hl.symm]
  · have hempty : m.isEmpty = false := by simpa using hm
    simp only [Disk.entry?, hempty, erase, lookup_filter_ne]
    rfl

/-- Nothing stands below a bare location. -/
theorem entry?_append_of_isBare {d : Disk} {l names : Location} (h : d.isBare l = true)
    (hne : names ≠ []) : d.entry? (l ++ names) = none := by
  have hempty : (l ++ names).isEmpty = false := by simp [hne]
  rw [Disk.entry?, hempty, if_neg Bool.false_ne_true, List.lookup_eq_none_iff]
  intro x hx
  have hbare := List.all_eq_true.mp h x hx
  simp only [Bool.or_eq_true, Bool.not_eq_true', decide_eq_true_eq] at hbare
  rcases hbare with hbare | hbare
  · rw [bne_iff_ne]
    intro heq
    have hstarts : l.isPrefixOf x.1 = true := List.isPrefixOf_iff_prefix.mpr ⟨names, heq⟩
    rw [hbare] at hstarts
    cases hstarts
  · rw [bne_iff_ne, hbare]
    simpa using hne

/-! ## Operations -/

/-- Making a directory puts one where nothing was. -/
theorem edit_of_makeDirectory {d d' : Disk} {p : String} (h : d.makeDirectory p = .ok d') :
    ∃ l, Edit d d' l (some .directory) ∧ d.entry? l = none := by
  obtain ⟨t, ht, h⟩ := bind_eq_ok_iff.mp h
  dsimp only at h
  split at h
  · cases h
  next hfree =>
    cases h
    simp only [Bool.or_eq_true, Bool.not_eq_true', not_or, Bool.not_eq_false,
      Bool.not_eq_true] at hfree
    obtain ⟨hproper, hnone⟩ := hfree
    obtain ⟨-, hname, hdirectory, -⟩ := target_eq_ok ht hproper
    have hnone : d.entry? t.location = none := by simpa using hnone
    have hne : t.location ≠ [] := by simp [Target.location]
    exact ⟨t.location, ⟨Disk.entry?_put hne _, fun x _ => ⟨_, _, rfl, hname, hdirectory⟩,
      fun hdir => by simp [hnone] at hdir⟩, hnone⟩

/-- The disk `d'` is `d` with directories made where nothing was. -/
def Built : Disk → Disk → Prop :=
  Relation.ReflTransGen fun d d' => ∃ l, Edit d d' l (some .directory) ∧ d.entry? l = none

theorem Built.file?_eq {d d' : Disk} (h : Built d d') : d'.file? = d.file? := by
  induction h with
  | refl => rfl
  | tail _ hstep ih =>
      obtain ⟨l, hedit, hnone⟩ := hstep
      rw [hedit.file?_eq_self (by simp [hnone]) rfl, ih]

theorem Built.isTree {d d' : Disk} (h : Built d d') (htree : d.IsTree) : d'.IsTree := by
  induction h with
  | refl => exact htree
  | tail _ hstep ih =>
      obtain ⟨l, hedit, -⟩ := hstep
      exact hedit.isTree ih

theorem Built.directory {d d' : Disk} (h : Built d d') {m : Location}
    (hm : d.entry? m = some .directory) : Disk.entry? d' m = some .directory := by
  induction h with
  | refl => exact hm
  | tail _ hstep ih =>
      obtain ⟨l, hedit, -⟩ := hstep
      exact hedit.directory ih fun _ => rfl

theorem Built.reaches {d d' : Disk} (h : Built d d') {p : String} (hp : d.Reaches p) :
    d'.Reaches p :=
  ⟨hp.1, fun m hm => h.directory (hp.2 m hm)⟩

theorem built_of_makeAll {d d' : Disk} {ps : List String} (h : d.makeAll ps = .ok d') :
    Built d d' := by
  induction ps generalizing d d' with
  | nil =>
      cases h
      exact .refl
  | cons p above ih =>
      unfold makeAll at h
      split at h
      · cases h
        exact .refl
      · dsimp only at h
        split at h
        case' h_1 =>
          obtain ⟨d₁, hd₁, h⟩ := bind_eq_ok_iff.mp h
          refine (ih hd₁).trans ?_
        -- whether or not those above were made first, one directory is left to make
        all_goals
          split at h
          next made hmade =>
            cases h
            exact .single (edit_of_makeDirectory hmade)
          next =>
            split at h
            · cases h
              exact .refl
            · cases h

theorem built_of_makeDirectories {d d' : Disk} {p : String}
    (h : d.makeDirectories p = .ok d') : Built d d' :=
  built_of_makeAll h

/-- A file is put where the path leads, on a disk on which it can be read there. -/
theorem edit_of_replaceFile {d d' : Disk} {p : String} {content : Content}
    (h : d.replaceFile p content = .ok d') :
    Edit d d' (place p) (some (.file content)) ∧ d.entry? (place p) ≠ some .directory ∧
      d'.Reaches p := by
  obtain ⟨t, ht, h⟩ := bind_eq_ok_iff.mp h
  dsimp only at h
  split at h
  · cases h
  next hproper =>
    split at h
    · cases h
    next hslashed =>
      split at h
      · cases h
      next hfree =>
        cases h
        have hproper : t.isProper = true := by simpa using hproper
        obtain ⟨hplace, hname, hdirectory, hreaches⟩ := target_eq_ok ht hproper
        rw [hplace] at hfree ⊢
        have hne : place p ≠ [] := by simp [← hplace, Target.location]
        have hedit : Edit d (d.put (place p) (.file content)) (place p)
            (some (.file content)) :=
          ⟨Disk.entry?_put hne _, fun x _ => ⟨_, _, hplace.symm, hname, hdirectory⟩,
            fun hdir => absurd hdir hfree⟩
        refine ⟨hedit, hfree, hedit.reaches (hreaches (by simpa using hslashed)) fun hmem => ?_⟩
        have hreaches := hreaches (by simpa using hslashed)
        exact absurd (hreaches.2 _ hmem) hfree

/-- A file is taken away from where the path leads. -/
theorem edit_of_removeFile {d d' : Disk} {p : String} (h : d.removeFile p = .ok d') :
    Edit d d' (place p) none ∧ ∃ content, d.entry? (place p) = some (.file content) := by
  obtain ⟨t, ht, h⟩ := bind_eq_ok_iff.mp h
  dsimp only at h
  split at h
  · cases h
  next hproper =>
    have hproper : t.isProper = true := by simpa using hproper
    obtain ⟨hplace, -⟩ := target_eq_ok ht hproper
    have hne : place p ≠ [] := by simp [← hplace, Target.location]
    rw [hplace] at h
    split at h
    · cases h
    · cases h
    next content hcontent =>
      split at h
      · cases h
      · cases h
        exact ⟨⟨Disk.entry?_erase hne, by simp, fun hdir => by simp [hcontent] at hdir⟩,
          content, hcontent⟩

/-- A bare directory is taken away from where the path leads, or nothing changes. -/
theorem edit_of_removeBareDirectory (d : Disk) (p : String) :
    d.removeBareDirectory p = d ∨ d.entry? (place p) = some .directory ∧
      Edit d (d.removeBareDirectory p) (place p) none := by
  unfold removeBareDirectory
  split
  · exact .inl rfl
  next t ht =>
    split
    next hbare =>
      simp only [Bool.and_eq_true, decide_eq_true_eq] at hbare
      obtain ⟨⟨hproper, hdirectory⟩, hbare⟩ := hbare
      obtain ⟨hplace, -⟩ := target_eq_ok ht hproper
      rw [hplace] at hdirectory hbare ⊢
      have hne : place p ≠ [] := by simp [← hplace, Target.location]
      exact .inr ⟨hdirectory, entry?_erase hne, by simp,
        fun _ _ names hnames => entry?_append_of_isBare hbare hnames⟩
    next => exact .inl rfl

end Rowsmith.Disk
