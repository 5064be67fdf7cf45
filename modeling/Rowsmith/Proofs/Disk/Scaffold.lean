/-
# Disks that are made for a path

To see what a pattern finds, one makes a disk on which there is something to find:
a scaffold has the directories that are asked for, with all above them, and a single
file. If the name of the file is new to the directories then the scaffold is a
tree, and a row of other steps is followed to the file.
-/

import Mathlib.Data.List.Infix
import Rowsmith.Proofs.Disk.Rows

namespace Rowsmith.Disk

open Rowsmith.Disk.Path

/-- The disk with the directories and all above them, and with one file. -/
def scaffold (dirs : List Location) (l : Location) (content : Content) : Disk :=
  ⟨(l, .file content) ::
    ((dirs.flatMap List.inits).filter fun k => !k.isEmpty).map fun k => (k, .directory)⟩

/-- A location that does not go by the name `last`. -/
def Avoids (last : String) (l : Location) : Prop :=
  IsLocation l ∧ last ∉ l

section

variable {dirs : List Location} {k l : Location} {last : String} {content : Content}

theorem Avoids.of_start (h : Avoids last l) (hk : k <+: l) : Avoids last k :=
  ⟨h.1.of_start hk, fun hlast => h.2 (hk.subset hlast)⟩

theorem avoids_of_not_mem (hdirs : ∀ k ∈ dirs, IsLocation k) (hlast : last ∉ dirs.flatten) :
    ∀ k ∈ dirs, Avoids last k :=
  fun k hk => ⟨hdirs k hk, fun hmem => hlast (List.mem_flatten_of_mem hk hmem)⟩

theorem Avoids.ne_append (h : Avoids last k) : k ≠ l ++ [last] := by
  rintro rfl
  exact h.2 (by simp)

theorem lookup_map_const {ks : List Location} {e : Entry} (h : k ∈ ks) :
    (ks.map fun k => (k, e)).lookup k = some e := by
  induction ks with
  | nil => cases h
  | cons first ks ih =>
      rw [List.map_cons, List.lookup_cons]
      by_cases hk : k = first
      · simp [hk]
      · have hne : (k == first) = false := by simpa using hk
        rw [hne]
        exact ih ((List.mem_cons.mp h).resolve_left hk)

theorem entry?_scaffold_file : Disk.entry? (scaffold dirs (l ++ [last]) content) (l ++ [last]) =
    some (.file content) := by
  simp [Disk.entry?, scaffold]

/-- A scaffold has no other files. -/
theorem file?_scaffold_iff {other : Content} :
    (scaffold dirs (l ++ [last]) content).file? k = some other ↔
      k = l ++ [last] ∧ other = content := by
  rw [file?_eq_some_iff]
  constructor
  · intro hentry
    have hk : k ≠ [] := by
      rintro rfl
      cases hentry
    have hmem := mem_entries hk hentry
    rw [scaffold, List.mem_cons, List.mem_map] at hmem
    rcases hmem with hfile | ⟨_, -, hdirectory⟩
    · cases hfile
      exact ⟨rfl, rfl⟩
    · cases hdirectory
  · rintro ⟨rfl, rfl⟩
    exact entry?_scaffold_file

variable (hdirs : ∀ k ∈ dirs, Avoids last k)

include hdirs

theorem entry?_scaffold_directory {k' : Location} (hk : k ∈ dirs) (hstarts : k' <+: k) :
    Disk.entry? (scaffold dirs (l ++ [last]) content) k' = some .directory := by
  rw [Disk.entry?]
  split
  · rfl
  next hempty =>
    have hne : (k' == l ++ [last]) = false := by
      rw [beq_eq_false_iff_ne]
      exact ((hdirs k hk).of_start hstarts).ne_append
    rw [scaffold, List.lookup_cons, hne]
    apply lookup_map_const
    rw [List.mem_filter, List.mem_flatMap]
    exact ⟨⟨k, hk, (List.mem_inits k' k).mpr hstarts⟩, by simpa using hempty⟩

theorem isDirectory_scaffold {p : String} (hp : p ≠ "")
    (hdirectory : Path.place p :: Path.passes p ⊆ dirs) :
    (scaffold dirs (l ++ [last]) content).isDirectory p = true := by
  rw [List.cons_subset] at hdirectory
  refine isDirectory_iff.mpr ⟨⟨hp, fun m hm => ?_⟩, ?_⟩
  · exact entry?_scaffold_directory hdirs (hdirectory.2 hm) (List.prefix_refl m)
  · exact entry?_scaffold_directory hdirs hdirectory.1 (List.prefix_refl _)

theorem isTree_scaffold (hl : l ∈ dirs) (hlast : IsEntryName last) :
    (scaffold dirs (l ++ [last]) content).IsTree := by
  apply isTree_of_entries
  rintro ⟨k, e⟩ hmem
  rw [scaffold, List.mem_cons, List.mem_map] at hmem
  rcases hmem with hfile | ⟨k', hk', heq⟩
  · obtain ⟨rfl, rfl⟩ := Prod.mk.inj hfile
    refine ⟨.entry (hdirs l hl).1 hlast, ?_⟩
    rw [List.dropLast_concat]
    exact entry?_scaffold_directory hdirs hl (List.prefix_refl l)
  · obtain ⟨rfl, rfl⟩ := Prod.mk.inj heq
    obtain ⟨k, hk, hstarts⟩ := List.mem_flatMap.mp (List.mem_filter.mp hk').1
    rw [List.mem_inits] at hstarts
    refine ⟨(hdirs k hk).1.of_start hstarts, ?_⟩
    exact entry?_scaffold_directory hdirs hk ((List.dropLast_prefix k').trans hstarts)

end

/-! ## Steps by other names -/

section

variable {l : Location} {last part : String} {ps : List String}

theorem Avoids.above (h : Avoids last l) (hlast : IsEntryName last) : Avoids last (above l) := by
  refine ⟨h.1.above, fun hmem => ?_⟩
  unfold Disk.above at hmem
  split at hmem
  · exact (List.mem_append.mp hmem).elim h.2 fun hdots =>
      hlast.2.2.1 (List.mem_singleton.mp hdots)
  · exact (List.mem_append.mp hmem).elim h.2 fun hdots =>
      hlast.2.2.1 (List.mem_singleton.mp hdots)
  · exact h.2 hmem
  · exact h.2 (List.dropLast_subset l hmem)

/-- A step that is not by the name `last` avoids it. -/
theorem Avoids.stepBy (h : Avoids last l) (hlast : IsEntryName last) (hslash : '/' ∉ part.toList)
    (hother : part ≠ last) : Avoids last (stepBy l part) := by
  unfold Path.stepBy ofPart?
  split
  · exact h
  · exact h
  · exact h.above hlast
  next hempty hdot hparent =>
    refine ⟨.entry h.1 ⟨hempty, hdot, hparent, hslash⟩, fun hmem => ?_⟩
    exact (List.mem_append.mp hmem).elim h.2 fun hpart => hother (List.mem_singleton.mp hpart).symm

/-- Steps by other names than `last` are taken where it is avoided, and lead there. -/
theorem Avoids.passes (h : Avoids last l) (hlast : IsEntryName last)
    (hslashes : ∀ part ∈ ps, '/' ∉ part.toList) (hfresh : last ∉ ps) :
    ∀ m ∈ walk l ps :: passesFrom l ps, Avoids last m := by
  induction ps generalizing l with
  | nil => exact List.forall_mem_singleton.mpr h
  | cons part ps ih =>
      rw [List.forall_mem_cons] at hslashes
      rw [List.mem_cons, not_or] at hfresh
      have hrest := ih (h.stepBy hlast hslashes.1 (Ne.symm hfresh.1)) hslashes.2 hfresh.2
      rw [List.forall_mem_cons] at hrest
      rw [passesFrom, List.forall_mem_cons, List.forall_mem_cons]
      exact ⟨hrest.1, h, hrest.2⟩

theorem avoids_start (p : String) (hlast : IsEntryName last) : Avoids last (start p) := by
  unfold start
  split
  · refine ⟨.root, fun hroot => hlast.2.2.2 ?_⟩
    rw [List.mem_singleton.mp hroot]
    decide
  · exact ⟨.working, List.not_mem_nil⟩

end

/-! ## Rows on scaffolds -/

/-- A row of steps from the path `p` that does not go by the name `last`, and does not get lost. -/
structure IsPassable (p last : String) (row : List String) : Prop where
  slashes : ∀ part ∈ row, '/' ∉ part.toList
  fresh : last ∉ row
  kept : IsHere p → ¬IsLost row

namespace IsPassable

variable {p last name : String} {pre front back row : List String}

/-- On a scaffold with its directories a row is followed to the file. -/
theorem follows {dirs : List Location} {l : Location} {content : Content}
    (h : IsPassable p last row) (hlast : IsEntryName last) (hdirs : ∀ k ∈ dirs, Avoids last k)
    (hpasses : passesFrom (place p) (row ++ [last]) ⊆ dirs) :
    Follows (scaffold dirs (l ++ [last]) content) p (row ++ [last]) where
  slashes := by
    rw [List.forall_mem_append, List.forall_mem_singleton]
    exact ⟨h.slashes, hlast.2.2.2⟩
  directories m hm := entry?_scaffold_directory hdirs (hpasses hm) (List.prefix_refl m)
  kept hhere := by
    rw [isLost_append_cons hlast.1 fun _ => rfl]
    exact h.kept hhere

/-- A row stays passable if a step to another entry is taken in place of some steps. -/
theorem detour (h : IsPassable p last (pre ++ (front ++ back))) (hname : IsEntryName name)
    (hother : name ≠ last) : IsPassable p last (pre ++ name :: back) where
  slashes := by
    have hslashes := h.slashes
    rw [List.forall_mem_append, List.forall_mem_append] at hslashes
    rw [List.forall_mem_append, List.forall_mem_cons]
    exact ⟨hslashes.1, hname.2.2.2, hslashes.2.2⟩
  fresh := by
    have hfresh := h.fresh
    rw [List.mem_append, List.mem_append, not_or, not_or] at hfresh
    rw [List.mem_append, List.mem_cons, not_or, not_or]
    exact ⟨hfresh.1, Ne.symm hother, hfresh.2.2⟩
  kept hhere := by
    rw [isLost_append_cons hname.1 fun hdot => absurd hdot hname.2.1]
    exact fun hlost => h.kept hhere (hlost.append _)

end IsPassable

end Rowsmith.Disk
