/-
# What a plan says

A plan is made from two scans that have different keys: the files of the run are
looked up on the disk, and the marked files of the disk are looked up among those of
the run. `IsDifference` says what both come to. Each file of the run falls into one
class by what its path reads as, each marked file that the run does not write is
removed, and nothing else changes. `plan_exact` says that every plan is the
difference in this sense, and that a check passes exactly if it is empty.
-/

import Mathlib.Data.List.Count
import Mathlib.Data.List.Nodup
import Rowsmith.Proofs.Disk.PathOrder
import Rowsmith.Proofs.Output.Run

namespace Rowsmith.Output

open Disk Code

/-- The changes of a plan at a path, however they spell it. -/
def Plan.changesAt (p : Plan) (path : String) : List PlannedChange :=
  p.changes.filter fun c => Path.same path c.path

/-- The paths that are listed for an output directory: those that match below it, if it is
there. -/
structure IsListing (d : Disk) (out : String) (listed : List String) : Prop where
  matching : d.isDirectory out = true → d.glob (patternBelow out) = .ok listed
  missing : d.isDirectory out = false → listed = []

/-- The path leads to a file that carries the mark, and the run does not write it. -/
structure IsStale (d : Disk) (files : List OutputFile) (q : String) : Prop where
  file : d.isFile q = true
  marked : ∃ text, d.readText q = .ok text ∧ isMarked text = true
  fresh : ∀ f ∈ files, Path.same f.path q = false

/-- The plan holds what separates the disk from the files of the run, and nothing else. -/
structure IsDifference (d : Disk) (files : List OutputFile) (out : String) (p : Plan) : Prop where
  /-- Nothing is done at a path that reads as the content of its file. -/
  kept : ∀ f ∈ files, d.readText f.path = .ok f.content → p.changesAt f.path = []
  /-- A path that reads as another text is updated. -/
  updated : ∀ f ∈ files, ∀ text, d.readText f.path = .ok text → text ≠ f.content →
    p.changesAt f.path = [⟨.update, f.path⟩]
  /-- A path that does not read as a text is created. -/
  created : ∀ f ∈ files, ∀ e, d.readText f.path = .error e →
    p.changesAt f.path = [⟨.create, f.path⟩]
  unchanged_eq : p.unchanged = files.countP fun f => d.readText f.path = .ok f.content
  updates_eq : p.count .update =
    files.countP fun f => (d.readText f.path).toOption.any (· ≠ f.content)
  creates_eq : p.count .create = files.countP fun f => (d.readText f.path).toOption.isNone
  /-- Every file of the run is counted once. -/
  length_eq : p.unchanged + p.count .update + p.count .create = files.length
  /-- A stale path is removed as often as it is listed, and no other path is. -/
  removed : ∃ listed, IsListing d out listed ∧
    ∀ q, (IsStale d files q → p.changes.count ⟨.remove, q⟩ = listed.count q) ∧
      (¬ IsStale d files q → ⟨.remove, q⟩ ∉ p.changes)
  sorted : p.changes.Pairwise fun a b => Path.notAfter a.path b.path = true

variable {d : Disk} {files : List OutputFile} {out : String} {p : Plan} {f : OutputFile}

/-! ## Files of the run -/

theorem changeFor?_of_other {text : String} (hread : d.readText f.path = .ok text)
    (hother : text ≠ f.content) : changeFor? d f = some ⟨.update, f.path⟩ := by
  simp only [changeFor?, hread, if_neg hother]

theorem changeFor?_of_unreadable {e : Failure} (hread : d.readText f.path = .error e) :
    changeFor? d f = some ⟨.create, f.path⟩ := by
  simp only [changeFor?, hread]

theorem countP_changeFor? (d : Disk) (files : List OutputFile) (change : Change) :
    (files.filterMap (changeFor? d)).countP (fun c => c.change == change) =
      files.countP fun f => ((changeFor? d f).map PlannedChange.change) == some change := by
  rw [List.countP_filterMap]
  refine List.countP_congr fun f _ => ?_
  cases changeFor? d f <;> simp

/-- Of files with different paths only the one asks for a change at its path. -/
theorem filter_changeFor? (hdistinct : (files.map fun f => Path.components f.path).Nodup)
    (hf : f ∈ files) :
    (files.filterMap (changeFor? d)).filter (fun c => Path.same f.path c.path) =
      (changeFor? d f).toList := by
  obtain ⟨before, after, rfl⟩ := List.append_of_mem hf
  have hother : ∀ gs : List OutputFile, (∀ g ∈ gs, Path.components f.path ≠ Path.components g.path) →
      (gs.filterMap (changeFor? d)).filter (fun c => Path.same f.path c.path) = [] := by
    intro gs hgs
    rw [List.filter_eq_nil_iff]
    intro c hc hsame
    obtain ⟨g, hg, hchange⟩ := List.mem_filterMap.mp hc
    rw [(changeFor?_eq_some hchange).1, Path.same_iff] at hsame
    exact hgs g hg hsame
  rw [List.map_append, List.map_cons, List.nodup_middle, List.nodup_cons, List.mem_append,
    not_or] at hdistinct
  obtain ⟨⟨hbefore, hafter⟩, -⟩ := hdistinct
  have hnone := hother before fun g hg heq => hbefore (heq ▸ List.mem_map_of_mem hg)
  have hrest := hother after fun g hg heq => hafter (heq ▸ List.mem_map_of_mem hg)
  rw [List.filterMap_append, List.filter_append, hnone, List.nil_append]
  cases hchange : changeFor? d f with
  | none =>
      rw [List.filterMap_cons_none hchange, hrest]
      rfl
  | some c =>
      have hsame : Path.same f.path c.path = true := by
        rw [(changeFor?_eq_some hchange).1, Path.same_iff]
      rw [List.filterMap_cons_some hchange, List.filter_cons, if_pos hsame, hrest]
      rfl

/-! ## Marked files -/

theorem markedFiles_eq_ok_iff {marked : List String} :
    markedFiles d out = .ok marked ↔ ∃ listed, IsListing d out listed ∧
      marked = listed.filter fun q => d.isFile q && isMarkedFile d q := by
  unfold markedFiles
  cases hdirectory : d.isDirectory out with
  | false =>
      constructor
      · intro h
        cases h
        exact ⟨[], ⟨by simp [hdirectory], fun _ => rfl⟩, rfl⟩
      · rintro ⟨listed, hlisted, rfl⟩
        rw [hlisted.missing hdirectory]
        rfl
  | true =>
      rw [if_pos rfl, map_eq_ok_iff]
      constructor
      · rintro ⟨listed, hglob, rfl⟩
        exact ⟨listed, ⟨fun _ => hglob, by simp [hdirectory]⟩, rfl⟩
      · rintro ⟨listed, hlisted, rfl⟩
        exact ⟨listed, hlisted.matching hdirectory, rfl⟩

theorem isStale_iff {q : String} :
    IsStale d files q ↔ (d.isFile q && isMarkedFile d q) = true ∧
      (!files.any fun f => Path.same f.path q) = true := by
  rw [Bool.and_eq_true, isMarkedFile_iff, Bool.not_eq_true', List.any_eq_false]
  simp only [Bool.not_eq_true]
  constructor
  · rintro ⟨hfile, hmarked, hfresh⟩
    exact ⟨⟨hfile, hmarked⟩, hfresh⟩
  · rintro ⟨⟨hfile, hmarked⟩, hfresh⟩
    exact ⟨hfile, hmarked, hfresh⟩

/-- The removals of the stale paths among those that are listed. -/
def removalsOf (d : Disk) (files : List OutputFile) (listed : List String) : List PlannedChange :=
  ((listed.filter fun q => d.isFile q && isMarkedFile d q).filter fun q =>
    !files.any fun f => Path.same f.path q).map (PlannedChange.mk .remove)

theorem mem_removalsOf_iff {listed : List String} {c : PlannedChange} :
    c ∈ removalsOf d files listed ↔
      c.change = .remove ∧ c.path ∈ listed ∧ IsStale d files c.path := by
  obtain ⟨change, path⟩ := c
  simp only [removalsOf, List.mem_map, List.mem_filter, PlannedChange.mk.injEq, isStale_iff]
  constructor
  · rintro ⟨q, ⟨⟨hq, hmarked⟩, hfresh⟩, rfl, rfl⟩
    exact ⟨rfl, hq, hmarked, hfresh⟩
  · rintro ⟨rfl, hq, hmarked, hfresh⟩
    exact ⟨path, ⟨⟨hq, hmarked⟩, hfresh⟩, rfl, rfl⟩

theorem count_removalsOf {listed : List String} {q : String} (h : IsStale d files q) :
    (removalsOf d files listed).count ⟨.remove, q⟩ = listed.count q := by
  obtain ⟨hmarked, hfresh⟩ := isStale_iff.mp h
  have hinjective : Function.Injective (PlannedChange.mk .remove) := fun _ _ heq =>
    congrArg PlannedChange.path heq
  rw [removalsOf, List.count_map_of_injective _ _ hinjective]
  rw [List.count_filter (p := fun q => !files.any fun f => Path.same f.path q) hfresh,
    List.count_filter (p := fun q => d.isFile q && isMarkedFile d q) hmarked]

/-! ## Plans as differences -/

/-- The changes of a plan are those for the files of the run and the removals of stale
paths, in some order. -/
theorem exists_changes_perm (h : plan d files out = .ok p) :
    ∃ listed, IsListing d out listed ∧
      p.changes.Perm (files.filterMap (changeFor? d) ++ removalsOf d files listed) := by
  obtain ⟨marked, hmarked, rfl⟩ := plan_eq_ok_iff.mp h
  obtain ⟨listed, hlisted, rfl⟩ := markedFiles_eq_ok_iff.mp hmarked
  exact ⟨listed, hlisted, List.mergeSort_perm _ _⟩

/-- At the path of a file of the run a plan has the change that the file asks for. -/
theorem changesAt_eq (h : plan d files out = .ok p)
    (hdistinct : (files.map fun f => Path.components f.path).Nodup) (hf : f ∈ files) :
    p.changesAt f.path = (changeFor? d f).toList := by
  obtain ⟨listed, -, hperm⟩ := exists_changes_perm h
  have hstale : (removalsOf d files listed).filter (fun c => Path.same f.path c.path) = [] := by
    rw [List.filter_eq_nil_iff]
    intro c hc
    rw [(mem_removalsOf_iff.mp hc).2.2.fresh f hf]
    exact Bool.false_ne_true
  have hat := hperm.filter fun c => Path.same f.path c.path
  rw [List.filter_append, filter_changeFor? hdistinct hf, hstale, List.append_nil] at hat
  cases hchange : changeFor? d f with
  | none =>
      rw [hchange] at hat
      exact hat.eq_nil
  | some c =>
      rw [hchange] at hat
      exact List.perm_singleton.mp hat

/-- Only files of the run are updated or created. -/
theorem count_eq (h : plan d files out = .ok p) {change : Change} (hchange : change ≠ .remove) :
    p.count change =
      files.countP fun f => ((changeFor? d f).map PlannedChange.change) == some change := by
  obtain ⟨listed, -, hperm⟩ := exists_changes_perm h
  have hstale : (removalsOf d files listed).countP (fun c => c.change == change) = 0 := by
    rw [List.countP_eq_zero]
    intro c hc
    rw [(mem_removalsOf_iff.mp hc).1, beq_iff_eq]
    exact hchange.symm
  rw [Plan.count, hperm.countP_eq, List.countP_append, hstale, countP_changeFor?, Nat.add_zero]

theorem unchanged_add_length (h : plan d files out = .ok p) :
    p.unchanged + (files.filterMap (changeFor? d)).length = files.length := by
  obtain ⟨marked, -, rfl⟩ := plan_eq_ok_iff.mp h
  exact Nat.sub_add_cancel (List.length_filterMap_le _ _)

/-- The files that are left alone are those that read as they are. -/
theorem unchanged_eq_countP (h : plan d files out = .ok p) :
    p.unchanged = files.countP fun f => d.readText f.path = .ok f.content := by
  have hlength := unchanged_add_length h
  rw [List.length_filterMap_eq_countP,
    List.length_eq_countP_add_countP fun f => (changeFor? d f).isSome, Nat.add_comm,
    Nat.add_left_cancel_iff] at hlength
  rw [hlength]
  refine List.countP_congr fun f _ => ?_
  rw [decide_eq_true_iff, decide_eq_true_iff, ← changeFor?_eq_none_iff, Bool.not_eq_true,
    Option.isSome_eq_false_iff, Option.isNone_iff_eq_none]

/-- A file asks for an update if its path reads as another text. -/
theorem changeFor?_isUpdate (d : Disk) (f : OutputFile) :
    (((changeFor? d f).map PlannedChange.change) == some .update) =
      (d.readText f.path).toOption.any (· ≠ f.content) := by
  unfold changeFor?
  cases d.readText f.path with
  | error e => simp [Except.toOption]
  | ok text => by_cases htext : text = f.content <;> simp [htext, Except.toOption]

/-- A file asks to be created if its path does not read as a text. -/
theorem changeFor?_isCreate (d : Disk) (f : OutputFile) :
    (((changeFor? d f).map PlannedChange.change) == some .create) =
      (d.readText f.path).toOption.isNone := by
  unfold changeFor?
  cases d.readText f.path with
  | error e => simp [Except.toOption]
  | ok text => by_cases htext : text = f.content <;> simp [htext, Except.toOption]

/-- No file of the run is removed. -/
theorem remove_not_mem_changes (q : String) :
    ⟨.remove, q⟩ ∉ files.filterMap (changeFor? d) := by
  intro hq
  obtain ⟨f, -, hchange⟩ := List.mem_filterMap.mp hq
  exact (changeFor?_eq_some hchange).2.1 rfl

/-- Every change has one of three sorts. -/
theorem countP_add_countP_add_countP (cs : List PlannedChange) :
    cs.countP (fun c => c.change == .create) + cs.countP (fun c => c.change == .update) +
      cs.countP (fun c => c.change == .remove) = cs.length := by
  induction cs with
  | nil => rfl
  | cons c cs ih =>
      rw [List.length_cons, ← ih]
      cases hchange : c.change <;> simp [hchange] <;> omega

/-- What is created and updated is what the files of the run ask for. -/
theorem count_create_add_count_update (h : plan d files out = .ok p) :
    p.count .create + p.count .update = (files.filterMap (changeFor? d)).length := by
  have hnone : (files.filterMap (changeFor? d)).countP (fun c => c.change == .remove) = 0 := by
    rw [List.countP_eq_zero]
    rintro ⟨change, q⟩ hc hremove
    obtain rfl : change = .remove := eq_of_beq hremove
    exact remove_not_mem_changes q hc
  rw [← countP_add_countP_add_countP, hnone, countP_changeFor?, countP_changeFor?,
    ← count_eq h (by decide), ← count_eq h (by decide), Nat.add_zero]

/-- A stale path is removed as often as it is listed, and no other path is removed. -/
theorem exists_removed (h : plan d files out = .ok p) :
    ∃ listed, IsListing d out listed ∧
      ∀ q, (IsStale d files q → p.changes.count ⟨.remove, q⟩ = listed.count q) ∧
        (¬ IsStale d files q → ⟨.remove, q⟩ ∉ p.changes) := by
  obtain ⟨listed, hlisted, hperm⟩ := exists_changes_perm h
  refine ⟨listed, hlisted, fun q => ⟨fun hstale => ?_, fun hstale hq => ?_⟩⟩
  · rw [hperm.count_eq, List.count_append, List.count_eq_zero.mpr (remove_not_mem_changes q),
      Nat.zero_add, count_removalsOf hstale]
  · rcases List.mem_append.mp (hperm.mem_iff.mp hq) with hq | hq
    · exact remove_not_mem_changes q hq
    · exact hstale (mem_removalsOf_iff.mp hq).2.2

/-- The changes are in the order of their paths. -/
theorem pairwise_changes (h : plan d files out = .ok p) :
    p.changes.Pairwise fun a b => Path.notAfter a.path b.path = true := by
  obtain ⟨marked, -, rfl⟩ := plan_eq_ok_iff.mp h
  refine List.pairwise_mergeSort (fun a b c hab hbc => ?_) (fun a b => ?_) _
  · rw [Path.notAfter_iff] at hab hbc ⊢
    exact hab.trans hbc
  · rw [Bool.or_eq_true, Path.notAfter_iff, Path.notAfter_iff]
    exact le_total _ _

/-- Every plan for files with different paths is the difference from the disk. -/
theorem isDifference_of_plan (h : plan d files out = .ok p)
    (hdistinct : (files.map fun f => Path.components f.path).Nodup) :
    IsDifference d files out p where
  kept f hf hread := by
    rw [changesAt_eq h hdistinct hf, changeFor?_eq_none_iff.mpr hread]
    rfl
  updated f hf text hread hother := by
    rw [changesAt_eq h hdistinct hf, changeFor?_of_other hread hother]
    rfl
  created f hf e hread := by
    rw [changesAt_eq h hdistinct hf, changeFor?_of_unreadable hread]
    rfl
  unchanged_eq := unchanged_eq_countP h
  updates_eq := by
    simp only [count_eq h (by decide : Change.update ≠ .remove), changeFor?_isUpdate]
  creates_eq := by
    simp only [count_eq h (by decide : Change.create ≠ .remove), changeFor?_isCreate]
  length_eq := by
    rw [← unchanged_add_length h, ← count_create_add_count_update h]
    omega
  removed := exists_removed h
  sorted := pairwise_changes h

/-- A plan for files with different paths is the difference from the disk, in the order of
paths. A check passes exactly if there is nothing to change, and otherwise fails with the
numbers of files to create, to update and to remove, which are those of all changes. -/
theorem plan_exact (h : plan d files out = .ok p)
    (hdistinct : (files.map fun f => Path.components f.path).Nodup) :
    IsDifference d files out p ∧
      ((∃ s, ((apply files out { check := true }).on d).1 = .ok s) ↔ p.changes = []) ∧
      (p.changes ≠ [] → (apply files out { check := true }).on d =
        (.error (.outOfDate (p.count .create) (p.count .update) (p.count .remove)), d)) ∧
      p.count .create + p.count .update + p.count .remove = p.changes.length := by
  have hcheck := on_apply files out { check := true } d
  simp only [h, Bool.false_eq_true, if_false, if_true] at hcheck
  refine ⟨isDifference_of_plan h hdistinct, ?_, fun hchanges => ?_,
    countP_add_countP_add_countP p.changes⟩
  · rw [hcheck, ← List.isEmpty_iff, ← Plan.isClean]
    split
    next hclean => exact iff_of_true ⟨_, rfl⟩ hclean
    next hclean => exact iff_of_false nofun hclean
  · rw [hcheck, if_neg]
    rwa [Plan.isClean, List.isEmpty_iff]

/-- A disk with a file of every sort: one that a run writes as it is, one with another text,
one that is no text, one that is stale and one that is written by hand. -/
def drawer : Disk :=
  ⟨[(["out"], .directory), (["out", "a.rs"], .file (.text (header ++ "\n"))),
    (["out", "b.rs"], .file (.text "pub mod b;\n")), (["out", "c.rs"], .file (.binary [0xff])),
    (["out", "notes.txt"], .file (.text "mine\n")), (["out", "x"], .directory),
    (["out", "x", "old.rs"], .file (.text (header ++ "\n")))]⟩

/-- Files for the paths of the first three, and one for a path at which there is nothing. -/
def drawerFiles : List OutputFile :=
  ["out/a.rs", "out/b.rs", "out/c.rs", "out/d/mod.rs"].map fun path => ⟨path, header ++ "\n"⟩

theorem plan_exact_drawer :
    ∃ p, plan drawer drawerFiles "out" = .ok p ∧ IsDifference drawer drawerFiles "out" p ∧
      p.unchanged = 1 ∧ (apply drawerFiles "out" { check := true }).on drawer =
        (.error (.outOfDate 2 1 1), drawer) := by
  have hplan := plan_eq_of_sorted drawer drawerFiles "out" ["out/a.rs", "out/x/old.rs"]
    [⟨.update, "out/b.rs"⟩, ⟨.create, "out/c.rs"⟩, ⟨.create, "out/d/mod.rs"⟩,
      ⟨.remove, "out/x/old.rs"⟩]
    (by decide +kernel) (by decide +kernel) (by decide +kernel)
  obtain ⟨hdifference, -, hfails, -⟩ := plan_exact hplan (by decide +kernel)
  exact ⟨_, hplan, hdifference, by decide +kernel, hfails (by simp)⟩

end Rowsmith.Output
