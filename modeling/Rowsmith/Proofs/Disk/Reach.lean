/-
# Where paths lead on a disk

A path is followed part by part, and every step is taken in a directory. The
directories in which steps are taken, `passes`, and the location at the end,
`place`, are read off the path alone; the disk decides only whether they are
there. So reading and looking for files come down to entries at known locations,
and a path that leads somewhere goes on doing so while its passes stay
directories.
-/

import Rowsmith.Proofs.Disk.Path
import Rowsmith.Proofs.Traversal

namespace Rowsmith.Disk

namespace Path

/-! ## Walking -/

/-- The location to which a part of a path leads from the location `l`. -/
def stepBy (l : Location) (part : String) : Location :=
  (ofPart? part).elim l (stepTo l)

/-- The location to which parts of a path lead from the location `l`. -/
def walk (l : Location) (ps : List String) : Location :=
  ps.foldl stepBy l

/-- The locations in which the steps of parts from the location `l` on are taken. -/
def passesFrom (l : Location) : List String → List Location
  | [] => []
  | part :: ps => l :: passesFrom (stepBy l part) ps

/-- The locations in which the steps of a path are taken. -/
def passes (p : String) : List Location :=
  passesFrom (start p) (parts p)

theorem walk_eq_placeFrom (l : Location) (ps : List String) :
    walk l ps = placeFrom l (ps.filterMap ofPart?) := by
  induction ps generalizing l with
  | nil => rfl
  | cons part ps ih =>
      rw [walk, List.foldl_cons, ← walk, ih]
      cases hpart : ofPart? part with
      | none => simp [stepBy, hpart]
      | some c => simp [stepBy, hpart, placeFrom]

theorem walk_append (l : Location) (ps qs : List String) :
    walk l (ps ++ qs) = walk (walk l ps) qs :=
  List.foldl_append

theorem passesFrom_append (l : Location) (ps qs : List String) :
    passesFrom l (ps ++ qs) = passesFrom l ps ++ passesFrom (walk l ps) qs := by
  induction ps generalizing l with
  | nil => rfl
  | cons part ps ih =>
      rw [List.cons_append, passesFrom, ih]
      rfl

/-- The beginning of a path leads to where its parts start. -/
theorem exists_components_eq (p : String) :
    ∃ cs, components p = cs ++ (parts p).filterMap ofPart? ∧ placeFrom [] cs = start p := by
  refine ⟨_, components_eq p, ?_⟩
  by_cases habsolute : isAbsolute p = true
  · simp [start, habsolute, placeFrom, stepTo]
  · by_cases hhead : (parts p).head? = some "."
    · simp [start, habsolute, hhead, placeFrom, stepTo]
    · simp [start, habsolute, hhead, placeFrom]

theorem walk_parts (p : String) : walk (start p) (parts p) = place p := by
  obtain ⟨cs, hcs, hstart⟩ := exists_components_eq p
  rw [walk_eq_placeFrom, place, hcs, placeFrom_append, hstart]

theorem exists_take_of_mem_passesFrom {l m : Location} {ps : List String}
    (h : m ∈ passesFrom l ps) :
    ∃ before after, ps = before ++ after ∧ after ≠ [] ∧ m = walk l before := by
  induction ps generalizing l with
  | nil => cases h
  | cons part ps ih =>
      rcases List.mem_cons.mp h with rfl | h
      · exact ⟨[], part :: ps, rfl, by simp, rfl⟩
      · obtain ⟨before, after, rfl, hne, rfl⟩ := ih h
        exact ⟨part :: before, after, rfl, hne, rfl⟩

/-- Every step of a path is taken where some of its first components lead. -/
theorem exists_prefix_of_mem_passes {p : String} {m : Location} (h : m ∈ passes p) :
    ∃ before, before <+: components p ∧ m = placeFrom [] before := by
  obtain ⟨before, after, hparts, -, rfl⟩ := exists_take_of_mem_passesFrom h
  obtain ⟨cs, hcs, hstart⟩ := exists_components_eq p
  refine ⟨cs ++ before.filterMap ofPart?, ?_, ?_⟩
  · rw [hcs, hparts, List.filterMap_append, ← List.append_assoc]
    exact List.prefix_append _ _
  · rw [placeFrom_append, hstart, walk_eq_placeFrom]

/-- Every step of a path is taken at a location. -/
theorem isLocation_of_mem_passes {p : String} {m : Location} (h : m ∈ passes p) :
    IsLocation m := by
  obtain ⟨before, hbefore, rfl⟩ := exists_prefix_of_mem_passes h
  exact isLocation_placeFrom .working fun name hname =>
    isEntryName_of_mem_components (hbefore.subset hname)

/-- A step of parts is taken wherever some but not all of their components lead. -/
theorem placeFrom_mem_passesFrom {l : Location} {ps : List String} {before : List Component}
    (h : before <+: ps.filterMap ofPart?) (hne : before ≠ ps.filterMap ofPart?) :
    placeFrom l before ∈ passesFrom l ps := by
  induction ps generalizing l before with
  | nil => exact absurd (List.prefix_nil.mp h) hne
  | cons part ps ih =>
      rw [passesFrom]
      cases hpart : ofPart? part with
      | none =>
          rw [List.filterMap_cons_none hpart] at h hne
          have hstep : stepBy l part = l := by simp [stepBy, hpart]
          rw [hstep]
          exact List.mem_cons_of_mem _ (ih h hne)
      | some c =>
          rw [List.filterMap_cons_some hpart] at h hne
          cases before with
          | nil => exact List.mem_cons_self
          | cons c' before =>
              obtain ⟨rfl, hrest⟩ := List.cons_prefix_cons.mp h
              have hstep : stepBy l part = stepTo l c' := by simp [stepBy, hpart]
              rw [hstep]
              exact List.mem_cons_of_mem _ (ih hrest fun heq => hne (by rw [heq]))

/-- A path that goes on from another starts where that one starts, and goes on by its
parts. -/
theorem filterMap_parts_of_isBelow {out p : String} {names : List String} (hout : out ≠ "")
    (hp : components p = components out ++ names.map .normal) :
    start p = start out ∧
      (parts p).filterMap ofPart? = (parts out).filterMap ofPart? ++ names.map .normal := by
  have hhead : (components p).head? = (components out).head? := by
    obtain ⟨first, rest, hfirst⟩ := List.exists_cons_of_ne_nil (components_ne_nil hout)
    rw [hp, hfirst]
    rfl
  have hproper : ∀ {q : String} {c : Component}, components q = (parts q).filterMap ofPart? →
      (components q).head? = some c → c ≠ .root ∧ c ≠ .current := fun hq hc =>
    ne_of_mem_filterMap_ofPart? (hq ▸ List.mem_of_mem_head? hc)
  rcases components_cases out with ⟨ho, hout⟩ | ⟨ho, hout⟩ | ⟨ho, -, hout⟩
  · have hphead : (components p).head? = some .root := by rw [hhead, hout]; rfl
    rcases components_cases p with ⟨ha, hpath⟩ | ⟨ha, hpath⟩ | ⟨ha, -, hpath⟩
    · rw [hpath, hout] at hp
      exact ⟨by rw [start, start, ha, ho], (List.cons.inj hp).2⟩
    · simp [hpath] at hphead
    · exact absurd rfl (hproper hpath hphead).1
  · have hphead : (components p).head? = some .current := by rw [hhead, hout]; rfl
    rcases components_cases p with ⟨ha, hpath⟩ | ⟨ha, hpath⟩ | ⟨ha, -, hpath⟩
    · simp [hpath] at hphead
    · rw [hpath, hout] at hp
      exact ⟨by rw [start, start, ha, ho], (List.cons.inj hp).2⟩
    · exact absurd rfl (hproper hpath hphead).2
  · rcases components_cases p with ⟨ha, hpath⟩ | ⟨ha, hpath⟩ | ⟨ha, -, hpath⟩
    · exact absurd rfl (hproper hout (hhead.symm.trans (by rw [hpath]; rfl))).1
    · exact absurd rfl (hproper hout (hhead.symm.trans (by rw [hpath]; rfl))).2
    · exact ⟨by rw [start, start, ha, ho], hpath.symm.trans (hp.trans (by rw [hout]))⟩

/-- A path that goes on from another takes all steps of that path, and one where it
leads. -/
theorem passes_subset_of_isBelow {out p : String} (hout : out ≠ "") (hp : IsBelow out p) :
    place out ∈ passes p ∧ ∀ m ∈ passes out, m ∈ passes p := by
  obtain ⟨names, hne, hp⟩ := hp
  obtain ⟨hstart, hparts⟩ := filterMap_parts_of_isBelow hout hp
  have hlonger : ∀ before, before <+: (parts out).filterMap ofPart? →
      placeFrom (start out) before ∈ passes p := by
    intro before hbefore
    rw [passes, hstart]
    refine placeFrom_mem_passesFrom (hbefore.trans (hparts ▸ List.prefix_append _ _)) ?_
    rintro rfl
    have hlength := hbefore.length_le
    rw [hparts, List.length_append, List.length_map] at hlength
    have := List.length_pos_iff.mpr hne
    omega
  constructor
  · have hplace := hlonger _ (List.prefix_refl _)
    rwa [← walk_eq_placeFrom, walk_parts] at hplace
  · intro m hm
    obtain ⟨before, after, hparts, -, rfl⟩ := exists_take_of_mem_passesFrom hm
    rw [walk_eq_placeFrom]
    exact hlonger _ (hparts ▸ by rw [List.filterMap_append]; exact List.prefix_append _ _)

end Path

open Rowsmith.Disk.Path

/-! ## Following -/

/-- A step that is taken in a directory leads on from where its part leads. -/
theorem follow_cons_of_directory {d : Disk} {l : Location} (h : d.entry? l = some .directory)
    (part : String) (ps : List String) :
    d.follow l (part :: ps) = d.follow (stepBy l part) ps := by
  rw [follow.eq_def, stepBy, ofPart?.eq_def]
  simp only [h]
  split
  · rfl
  · rfl
  · rfl
  · simp [stepTo]

theorem follow_eq_ok_iff {d : Disk} {l l' : Location} {ps : List String} :
    d.follow l ps = .ok l' ↔
      (∀ m ∈ passesFrom l ps, d.entry? m = some .directory) ∧ walk l ps = l' := by
  induction ps generalizing l with
  | nil => simp [follow, passesFrom, walk]
  | cons part ps ih =>
      rw [passesFrom, List.forall_mem_cons, walk, List.foldl_cons, ← walk]
      cases hentry : d.entry? l with
      | none => simp [follow, hentry]
      | some e =>
          cases e with
          | file content => simp [follow, hentry]
          | directory => simp [follow_cons_of_directory hentry, ih]

/-- On the disk `d` every step of the path can be taken. -/
def Reaches (d : Disk) (p : String) : Prop :=
  p ≠ "" ∧ ∀ m ∈ passes p, d.entry? m = some .directory

theorem locate_eq_ok_iff {d : Disk} {p : String} {l : Location} :
    d.locate p = .ok l ↔ d.Reaches p ∧ place p = l := by
  unfold locate
  split
  next hempty => simp_all [Reaches]
  next hempty =>
    rw [follow_eq_ok_iff, walk_parts, ← passes]
    simp_all [Reaches]

theorem find_eq_ok_iff {d : Disk} {p : String} {e : Entry} :
    d.find p = .ok e ↔ d.Reaches p ∧ d.entry? (place p) = some e := by
  rw [find, bind_eq_ok_iff]
  constructor
  · rintro ⟨l, hl, he⟩
    obtain ⟨hreaches, rfl⟩ := locate_eq_ok_iff.mp hl
    refine ⟨hreaches, ?_⟩
    cases hentry : d.entry? (place p) with
    | none => simp only [hentry] at he; cases he
    | some e' => simp only [hentry] at he; cases he; rfl
  · rintro ⟨hreaches, he⟩
    refine ⟨place p, locate_eq_ok_iff.mpr ⟨hreaches, rfl⟩, ?_⟩
    simp only [he]
    rfl

theorem readText_eq_ok_iff {d : Disk} {p s : String} :
    d.readText p = .ok s ↔ d.Reaches p ∧ d.entry? (place p) = some (.file (.text s)) := by
  rw [readText, bind_eq_ok_iff]
  simp only [find_eq_ok_iff, and_assoc]
  constructor
  · rintro ⟨e, hreaches, he, hs⟩
    refine ⟨hreaches, ?_⟩
    cases e with
    | directory => cases hs
    | file content =>
        cases content with
        | text s' => cases hs; exact he
        | binary bytes => cases hs
  · rintro ⟨hreaches, he⟩
    exact ⟨_, hreaches, he, rfl⟩

theorem isFile_iff {d : Disk} {p : String} :
    d.isFile p = true ↔ d.Reaches p ∧ ∃ content, d.entry? (place p) = some (.file content) := by
  rw [isFile]
  cases hfind : d.find p with
  | error e =>
      simp only [Except.toOption, Option.any_none, Bool.false_eq_true, false_iff]
      rintro ⟨hreaches, content, hcontent⟩
      have := find_eq_ok_iff.mpr ⟨hreaches, hcontent⟩
      simp [hfind] at this
  | ok e =>
      obtain ⟨hreaches, he⟩ := find_eq_ok_iff.mp hfind
      cases e with
      | directory => simp [Except.toOption, he]
      | file content => simp [Except.toOption, hreaches, he]

theorem isDirectory_iff {d : Disk} {p : String} :
    d.isDirectory p = true ↔ d.Reaches p ∧ d.entry? (place p) = some .directory := by
  rw [isDirectory, beq_iff_eq, ← find_eq_ok_iff]
  cases d.find p <;> simp [Except.toOption]

theorem isThere_iff {d : Disk} {p : String} :
    d.isThere p = true ↔ d.Reaches p ∧ (d.entry? (place p)).isSome = true := by
  rw [isThere, Option.isSome_iff_exists, Option.isSome_iff_exists]
  constructor
  · rintro ⟨e, he⟩
    cases hfind : d.find p with
    | error e => simp [hfind, Except.toOption] at he
    | ok e' => exact ⟨(find_eq_ok_iff.mp hfind).1, e', (find_eq_ok_iff.mp hfind).2⟩
  · rintro ⟨hreaches, e, he⟩
    exact ⟨e, by rw [find_eq_ok_iff.mpr ⟨hreaches, he⟩]; rfl⟩

/-- Where a path can be followed, the directories below which it lies are there. -/
theorem isDirectory_of_isBelow {d : Disk} {out p : String} (hout : out ≠ "")
    (hp : IsBelow out p) (h : d.Reaches p) : d.isDirectory out = true := by
  obtain ⟨hplace, hpasses⟩ := passes_subset_of_isBelow hout hp
  exact isDirectory_iff.mpr ⟨⟨hout, fun m hm => h.2 m (hpasses m hm)⟩, h.2 _ hplace⟩

/-! ## The last step of a path -/

theorem walk_of_all_isEmpty {l : Location} {ps : List String}
    (h : ∀ part ∈ ps, part.isEmpty = true) : walk l ps = l := by
  induction ps with
  | nil => rfl
  | cons part ps ih =>
      obtain rfl : part = "" := by simpa using h part List.mem_cons_self
      exact ih fun q hq => h q (List.mem_cons_of_mem _ hq)

/-- A path with a proper last step has parts for the steps before it, one for the step, and
empty ones for slashes that follow. -/
theorem exists_parts_of_target {d : Disk} {p : String} {t : Target} (h : d.target p = .ok t)
    (hproper : t.isProper = true) :
    ∃ before idle, parts p = before ++ ([t.name] ++ idle) ∧
      (∀ part ∈ idle, part.isEmpty = true) ∧ (t.slashed = false → idle = []) ∧
      d.follow (start p) before = .ok t.directory ∧ d.entry? t.directory = some .directory := by
  unfold target at h
  have hback := List.takeWhile_append_dropWhile (p := String.isEmpty) (l := (parts p).reverse)
  have hidle : ∀ part ∈ (parts p).reverse.takeWhile String.isEmpty, part.isEmpty = true :=
    List.all_eq_true.mp List.all_takeWhile
  generalize (parts p).reverse.takeWhile String.isEmpty = idle at hback hidle
  dsimp only at h
  split at h
  next hnone =>
    split at h
    · cases h
      simp [Target.isProper] at hproper
    · cases h
  next name before hsome =>
    obtain ⟨l, hl, h⟩ := bind_eq_ok_iff.mp h
    split at h
    · cases h
    · cases h
    next hentry =>
      cases h
      rw [hsome] at hback
      refine ⟨before.reverse, idle.reverse, ?_, by simpa using hidle, fun hslashed => ?_, hl,
        hentry⟩
      · simpa using (congrArg List.reverse hback).symm
      · cases idle with
        | nil => rfl
        | cons part idle =>
            obtain rfl : part = "" := by simpa using hidle part List.mem_cons_self
            rw [← hback] at hslashed
            cases hslashed

/-- A proper last step is taken in a directory, by a name, and leads to where the
path leads. If no slash follows then every step of the path can be taken. -/
theorem target_eq_ok {d : Disk} {p : String} {t : Target} (h : d.target p = .ok t)
    (hproper : t.isProper = true) :
    t.location = place p ∧ IsEntryName t.name ∧ d.entry? t.directory = some .directory ∧
      (t.slashed = false → d.Reaches p) := by
  obtain ⟨before, idle, hparts, hidle, hslashes, hfollow, hentry⟩ :=
    exists_parts_of_target h hproper
  obtain ⟨hdirectories, hwalk⟩ := follow_eq_ok_iff.mp hfollow
  have hname : IsEntryName t.name := by
    have hslash : '/' ∉ t.name.toList := slash_not_mem_of_mem_parts (p := p) (by simp [hparts])
    simp only [Target.isProper, Bool.and_eq_true, bne_iff_ne, ne_eq] at hproper
    exact ⟨hproper.1.1, hproper.1.2, hproper.2, hslash⟩
  refine ⟨?_, hname, hentry, fun hslashed => ⟨?_, fun m hm => ?_⟩⟩
  · rw [← walk_parts, hparts, walk_append, hwalk, walk_append, walk_of_all_isEmpty hidle]
    simp [walk, stepBy, ofPart?_of_isEntryName hname, stepTo, Target.location]
  · rintro rfl
    have hmem : t.name ∈ parts "" := by simp [hparts]
    exact hname.1 (by simpa using hmem)
  · rw [passes, hparts, hslashes hslashed, passesFrom_append, hwalk, List.mem_append] at hm
    rcases hm with hm | hm
    · exact hdirectories m hm
    · obtain rfl : m = t.directory := by simpa [passesFrom] using hm
      exact hentry

end Rowsmith.Disk
