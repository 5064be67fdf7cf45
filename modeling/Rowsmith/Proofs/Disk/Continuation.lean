/-
# Continued paths

A path is continued by a part after a slash, and then leads on from where it led.
What stands in the working directory is known by its name alone, so a path that has
led nowhere yet gives way to the part. So a path is rebuilt from where it starts, the
root or the working directory, by the parts of its row.
-/

import Rowsmith.Disk.Glob
import Rowsmith.Proofs.Disk.Reach

namespace Rowsmith.Disk

open Rowsmith.Disk.Path

/-! ## Rows of parts -/

/-- The steps of a path from where it starts. -/
def stepsOf (p : String) : List Component :=
  (parts p).filterMap ofPart?

/-- The path of the directory where a path starts. -/
def base (p : String) : String :=
  if isAbsolute p then "/" else "."

/-- The parts of a path, but for the empty ones before a slash at its start and behind a slash at
its end. -/
def rowOf (p : String) : List String :=
  let ps := if p.endsWith "/" then (parts p).dropLast else parts p
  if isAbsolute p then ps.drop 1 else ps

/-- The path has led nowhere yet: no step is taken from the working directory. -/
def IsHere (p : String) : Prop :=
  isAbsolute p = false ∧ stepsOf p = []

section

variable {p q part : String}

theorem place_eq (p : String) : place p = placeFrom (start p) (stepsOf p) := by
  rw [← walk_parts, walk_eq_placeFrom, stepsOf]

theorem start_eq_of_isAbsolute (h : isAbsolute q = isAbsolute p) : start q = start p := by
  rw [start, start, h]

theorem stepsOf_part (hpart : '/' ∉ part.toList) : stepsOf part = (ofPart? part).toList := by
  rw [stepsOf, parts_of_not_mem hpart]
  cases hstep : ofPart? part <;> simp [hstep]

/-- A path is a stem, and a slash or nothing. It is continued by a slash after the stem. -/
theorem exists_stem (h : p ≠ "") :
    ∃ stem, (p = stem ∧ p.endsWith "/" = false ∨ p = stem ++ "/" ∧ p.endsWith "/" = true) ∧
      parts stem = (if isAbsolute p then [""] else []) ++ rowOf p ∧
      ∀ q, isAbsolute q = false → join p q = stem ++ "/" ++ q := by
  have hempty : p.isEmpty = false := by simpa using h
  by_cases hslash : p.endsWith "/" = true
  · obtain ⟨stem, rfl⟩ := endsWith_slash_iff.mp hslash
    have hparts := parts_append_slash stem ""
    rw [String.append_empty, parts_empty] at hparts
    refine ⟨stem, .inr ⟨rfl, hslash⟩, ?_, fun q hq => by simp [join, hq, hslash]⟩
    rw [rowOf, if_pos hslash, hparts, List.dropLast_concat]
    split_ifs with habsolute
    · obtain ⟨rest, -, hrest⟩ := isAbsolute_iff_parts.mp habsolute
      obtain ⟨first, more, hfirst⟩ := List.exists_cons_of_ne_nil (parts_ne_nil stem)
      rw [hparts, hfirst] at hrest
      rw [hfirst, (List.cons.inj hrest).1]
      rfl
    · rfl
  · refine ⟨p, .inl ⟨rfl, by simpa using hslash⟩, ?_,
      fun q hq => by simp [join, hq, hempty, hslash]⟩
    rw [rowOf, if_neg hslash]
    split_ifs with habsolute
    · obtain ⟨rest, -, hrest⟩ := isAbsolute_iff_parts.mp habsolute
      rw [hrest]
      rfl
    · rfl

theorem parts_eq (h : p ≠ "") : parts p =
    (if isAbsolute p then [""] else []) ++ (rowOf p ++ if p.endsWith "/" then [""] else []) := by
  obtain ⟨stem, hspelled, hparts, -⟩ := exists_stem h
  rw [← List.append_assoc, ← hparts]
  rcases hspelled with ⟨rfl, hslash⟩ | ⟨hstem, hslash⟩
  · rw [hslash, if_neg Bool.false_ne_true, List.append_nil]
  · have hslashed := parts_append_slash stem ""
    rw [String.append_empty, parts_empty, ← hstem] at hslashed
    rw [hslash, if_pos rfl, hslashed]

theorem mem_parts_of_mem_rowOf (h : p ≠ "") (hpart : part ∈ rowOf p) : part ∈ parts p := by
  rw [parts_eq h]
  exact List.mem_append_right _ (List.mem_append_left _ hpart)

theorem slash_not_mem_of_mem_rowOf (h : p ≠ "") (hpart : part ∈ rowOf p) : '/' ∉ part.toList :=
  slash_not_mem_of_mem_parts (mem_parts_of_mem_rowOf h hpart)

theorem stepsOf_eq (h : p ≠ "") : stepsOf p = (rowOf p).filterMap ofPart? := by
  rw [stepsOf, parts_eq h, List.filterMap_append, List.filterMap_append]
  split_ifs <;> simp [ofPart?]

theorem walk_rowOf (h : p ≠ "") : walk (start p) (rowOf p) = place p := by
  rw [place_eq, stepsOf_eq h, walk_eq_placeFrom]

/-- The step before a slash at the start of a path is taken where the path starts. -/
theorem passesFrom_start (p : String) (ps : List String) :
    passesFrom (start p) ((if isAbsolute p then [""] else []) ++ ps) =
      (if isAbsolute p then [start p] else []) ++ passesFrom (start p) ps := by
  split_ifs <;> rfl

/-- The steps of a path are taken on its row, and before and after it for slashes there. -/
theorem passes_eq (h : p ≠ "") : passes p =
    (if isAbsolute p then [start p] else []) ++
      (passesFrom (start p) (rowOf p) ++ if p.endsWith "/" then [place p] else []) := by
  rw [passes, parts_eq h, passesFrom_start, passesFrom_append, walk_rowOf h]
  split_ifs <;> rfl

/-- A directory is there if the steps to it can be taken on the row of its path. -/
theorem isDirectory_iff_rowOf {d : Disk} (h : p ≠ "") : d.isDirectory p = true ↔
    d.entry? (start p) = some .directory ∧
      (∀ m ∈ passesFrom (start p) (rowOf p), d.entry? m = some .directory) ∧
      d.entry? (place p) = some .directory := by
  have hstart : (∀ m ∈ if isAbsolute p then [start p] else [], d.entry? m = some .directory) ↔
      d.entry? (start p) = some .directory := by
    split_ifs with habsolute
    · exact List.forall_mem_singleton
    · rw [start, if_neg habsolute]
      simp [Disk.entry?]
  have hend : d.entry? (place p) = some .directory →
      ∀ m ∈ if p.endsWith "/" then [place p] else [], d.entry? m = some .directory := by
    intro hplace m hm
    split_ifs at hm
    · rwa [List.mem_singleton.mp hm]
    · cases hm
  rw [isDirectory_iff, Reaches, and_iff_right h, passes_eq h, List.forall_mem_append,
    List.forall_mem_append, hstart, and_assoc, and_assoc]
  exact and_congr_right fun _ => and_congr_right fun _ =>
    and_iff_right_of_imp hend

end

/-! ## Steps further -/

section

variable {d : Disk} {p q part : String}

theorem join_ne_empty (h : p ≠ "") (q : String) : join p q ≠ "" := by
  have hempty : p.isEmpty = false := by simpa using h
  unfold join
  split_ifs with hq
  · rw [hempty, Bool.or_false] at hq
    rintro rfl
    simp [isAbsolute] at hq
  · simp [h]
  · simp

/-- A path that is continued has the parts of what follows behind its row. -/
theorem parts_join (h : p ≠ "") (hq : isAbsolute q = false) : parts (join p q) =
    (if isAbsolute p then [""] else []) ++ (rowOf p ++ parts q) := by
  obtain ⟨stem, -, hparts, hjoin⟩ := exists_stem h
  rw [hjoin q hq, parts_append_slash, hparts, List.append_assoc]

theorem stepsOf_join (h : p ≠ "") (hpart : '/' ∉ part.toList) :
    stepsOf (join p part) = stepsOf p ++ (ofPart? part).toList := by
  have hpath := not_isAbsolute_of_not_mem hpart
  rw [stepsOf, parts_join h hpath, List.filterMap_append, List.filterMap_append, ← stepsOf_eq h,
    ← stepsOf, stepsOf_part hpart]
  split_ifs <;> simp [ofPart?]

/-- A path that is continued takes its own steps, and then those of what follows. -/
theorem passes_join (h : p ≠ "") (hq : isAbsolute q = false) : passes (join p q) =
    (if isAbsolute p then [start p] else []) ++
      (passesFrom (start p) (rowOf p) ++ passesFrom (place p) (parts q)) := by
  rw [passes, start_eq_of_isAbsolute (isAbsolute_join h hq), parts_join h hq, passesFrom_start,
    passesFrom_append, walk_rowOf h]

/-- A path that is continued by a part leads where a step by the part leads. -/
theorem place_join (h : p ≠ "") (hpart : '/' ∉ part.toList) :
    place (join p part) = stepBy (place p) part := by
  rw [place, components_join h (not_isAbsolute_of_not_mem hpart), parts_of_not_mem hpart,
    placeFrom_append, ← walk_eq_placeFrom]
  rfl

theorem reaches_join (h : p ≠ "") (hpart : '/' ∉ part.toList) (hp : d.Reaches p)
    (hdirectory : d.entry? (place p) = some .directory) : d.Reaches (join p part) := by
  refine ⟨join_ne_empty h part, fun m hm => ?_⟩
  rw [passes_join h (not_isAbsolute_of_not_mem hpart), parts_of_not_mem hpart,
    ← List.append_assoc, List.mem_append] at hm
  rcases hm with hm | hm
  · apply hp.2 m
    rw [passes_eq h, ← List.append_assoc]
    exact List.mem_append_left _ hm
  · obtain rfl : m = place p := by simpa [passesFrom] using hm
    exact hdirectory

theorem place_mem_passes_join (h : p ≠ "") (hpart : '/' ∉ part.toList) :
    place p ∈ passes (join p part) := by
  rw [passes_join h (not_isAbsolute_of_not_mem hpart), parts_of_not_mem hpart, passesFrom]
  exact List.mem_append_right _ (List.mem_append_right _ List.mem_cons_self)

/-! ## What stands in the working directory -/

theorem same_dot_iff (h : p ≠ "") : same p "." = true ↔ IsHere p := by
  rw [same_iff, components_dot]
  rcases components_cases p with ⟨habsolute, hp⟩ | ⟨hrelative, hp⟩ | ⟨hrelative, -, hp⟩
  · simp [hp, IsHere, habsolute]
  · simp [hp, IsHere, hrelative, stepsOf]
  · constructor
    · intro hcurrent
      have hmem : Component.current ∈ (parts p).filterMap ofPart? := by
        rw [← hp, hcurrent]
        exact List.mem_singleton_self _
      exact absurd rfl (ne_of_mem_filterMap_ofPart? hmem).2
    · rintro ⟨-, hnil⟩
      rw [stepsOf, ← hp] at hnil
      exact absurd hnil (components_ne_nil h)

/-- A path is continued by a part, or the part stands for itself if the path has led
nowhere yet. -/
theorem continued_cases (h : p ≠ "") (part : String) :
    IsHere p ∧ continued p part = part ∨ ¬IsHere p ∧ continued p part = join p part := by
  rw [continued]
  by_cases hsame : same p "." = true
  · exact .inl ⟨(same_dot_iff h).mp hsame, if_pos hsame⟩
  · exact .inr ⟨fun hhere => hsame ((same_dot_iff h).mpr hhere), if_neg hsame⟩

theorem continued_ne_empty (h : p ≠ "") (hne : IsHere p → part ≠ "") : continued p part ≠ "" := by
  rcases continued_cases h part with ⟨hhere, hpath⟩ | ⟨-, hpath⟩
  · rw [hpath]
    exact hne hhere
  · rw [hpath]
    exact join_ne_empty h part

theorem isAbsolute_continued (h : p ≠ "") (hpart : '/' ∉ part.toList) :
    isAbsolute (continued p part) = isAbsolute p := by
  have hpath := not_isAbsolute_of_not_mem hpart
  rcases continued_cases h part with ⟨hhere, hcontinued⟩ | ⟨-, hcontinued⟩
  · rw [hcontinued, hpath, hhere.1]
  · rw [hcontinued, isAbsolute_join h hpath]

theorem stepsOf_continued (h : p ≠ "") (hpart : '/' ∉ part.toList) :
    stepsOf (continued p part) = stepsOf p ++ (ofPart? part).toList := by
  rcases continued_cases h part with ⟨hhere, hpath⟩ | ⟨-, hpath⟩
  · rw [hpath, hhere.2, stepsOf_part hpart, List.nil_append]
  · rw [hpath, stepsOf_join h hpart]

/-- A continued path leads on from where the path leads. -/
theorem place_continued (h : p ≠ "") (hpart : '/' ∉ part.toList) :
    place (continued p part) = stepBy (place p) part := by
  rw [place_eq, stepsOf_continued h hpart, placeFrom_append,
    start_eq_of_isAbsolute (isAbsolute_continued h hpart), ← place_eq]
  unfold stepBy
  cases ofPart? part <;> rfl

theorem reaches_continued (h : p ≠ "") (hpart : '/' ∉ part.toList) (hne : IsHere p → part ≠ "")
    (hp : d.Reaches p) (hdirectory : d.entry? (place p) = some .directory) :
    d.Reaches (continued p part) := by
  rcases continued_cases h part with ⟨hhere, hpath⟩ | ⟨-, hpath⟩
  · have hpasses : passes part = [[]] := by
      rw [passes, parts_of_not_mem hpart, start, not_isAbsolute_of_not_mem hpart]
      rfl
    rw [hpath]
    refine ⟨hne hhere, ?_⟩
    rw [hpasses, List.forall_mem_singleton]
    rfl
  · rw [hpath]
    exact reaches_join h hpart hp hdirectory

/-- A continued path can be followed only if the path leads to a directory. -/
theorem directory_of_reaches_continued (h : p ≠ "") (hpart : '/' ∉ part.toList)
    (hp : d.Reaches (continued p part)) : d.entry? (place p) = some .directory := by
  rcases continued_cases h part with ⟨hhere, -⟩ | ⟨-, hpath⟩
  · rw [place_eq, hhere.2, start, hhere.1]
    rfl
  · rw [hpath] at hp
    exact hp.2 _ (place_mem_passes_join h hpart)

end

/-! ## The directory where a path starts -/

section

variable (p : String)

theorem base_ne_empty : base p ≠ "" := by
  unfold base
  split <;> decide

theorem isAbsolute_base : isAbsolute (base p) = isAbsolute p := by
  have hroot : isAbsolute "/" = true := isAbsolute_iff.mpr ⟨"", rfl⟩
  have hworking : isAbsolute "." = false := not_isAbsolute_of_not_mem (by decide)
  unfold base
  split_ifs with habsolute
  · rw [hroot, habsolute]
  · rw [hworking, Bool.eq_false_iff.mpr habsolute]

theorem stepsOf_base : stepsOf (base p) = [] := by
  unfold base
  split <;> decide +kernel

theorem place_base : place (base p) = start p := by
  rw [place_eq, stepsOf_base, start_eq_of_isAbsolute (isAbsolute_base p)]
  rfl

/-- One can always start from the working directory, and from the root if it is there. -/
theorem reaches_base {d : Disk} (h : d.entry? (start p) = some .directory) :
    d.Reaches (base p) := by
  have hpasses : ∀ m ∈ passes (base p), m = start p := by
    unfold base start
    split_ifs <;> decide +kernel
  exact ⟨base_ne_empty p, fun m hm => hpasses m hm ▸ h⟩

theorem isDirectory_base {d : Disk} (h : d.entry? (start p) = some .directory) :
    d.isDirectory (base p) = true :=
  isDirectory_iff.mpr ⟨reaches_base p h, by rw [place_base, h]⟩

end

/-! ## Spelled paths -/

/-- A path that starts with the root, with a name or with a step upwards. -/
structure IsPlainPath (p : String) : Prop where
  ne_empty : p ≠ ""
  head : (parts p).head? ≠ some "."

namespace IsPlainPath

variable {p part : String}

theorem components_eq (h : IsPlainPath p) :
    components p = (if isAbsolute p then [.root] else []) ++ stepsOf p := by
  rw [Path.components_eq, if_neg h.head, stepsOf]

theorem join (h : IsPlainPath p) (hpart : isAbsolute part = false) :
    IsPlainPath (join p part) := by
  refine ⟨join_ne_empty h.ne_empty part, ?_⟩
  obtain ⟨stem, hspelled, -, hjoin⟩ := exists_stem h.ne_empty
  have hhead := h.head
  rw [hjoin part hpart, head?_parts_append_slash]
  rcases hspelled with ⟨rfl, -⟩ | ⟨rfl, -⟩
  · exact hhead
  · rwa [← String.append_empty (s := stem ++ "/"), head?_parts_append_slash] at hhead

/-- What stands below the path is known by the path. -/
theorem continued_eq (h : IsPlainPath p) (part : String) : continued p part = Path.join p part := by
  rcases continued_cases h.ne_empty part with ⟨hhere, -⟩ | ⟨-, hpath⟩
  · have hnil : components p = [] := by
      rw [h.components_eq, hhere.1, hhere.2]
      rfl
    exact absurd hnil (components_ne_nil h.ne_empty)
  · exact hpath

end IsPlainPath

theorem isPlainPath_root : IsPlainPath "/" :=
  ⟨by decide, by decide +kernel⟩

/-- What stands in the working directory is known by its name. -/
theorem continued_dot (part : String) : continued "." part = part := by
  have hsame : same "." "." = true := by simp [same]
  rw [continued, hsame, if_pos rfl]

/-- A path that is continued by parts of paths. -/
def extended (p : String) (ps : List String) : String :=
  ps.foldl continued p

section

variable {d : Disk} {p : String} {ps names : List String}

theorem isPlainPath_extended (h : IsPlainPath p) (hps : ∀ part ∈ ps, '/' ∉ part.toList) :
    IsPlainPath (extended p ps) := by
  induction ps generalizing p with
  | nil => exact h
  | cons part ps ih =>
      rw [List.forall_mem_cons] at hps
      rw [extended, List.foldl_cons, h.continued_eq]
      exact ih (h.join (not_isAbsolute_of_not_mem hps.1)) hps.2

theorem components_extended (h : IsPlainPath p) (hps : ∀ part ∈ ps, '/' ∉ part.toList) :
    components (extended p ps) = components p ++ ps.filterMap ofPart? := by
  induction ps generalizing p with
  | nil => simp [extended]
  | cons part ps ih =>
      rw [List.forall_mem_cons] at hps
      have hpart := not_isAbsolute_of_not_mem hps.1
      rw [extended, List.foldl_cons, h.continued_eq, ← extended, ih (h.join hpart) hps.2,
        components_join h.ne_empty hpart, parts_of_not_mem hps.1, List.append_assoc,
        ← List.filterMap_append]
      rfl

/-- A path that is continued leads on through directories. -/
theorem reaches_extended (h : IsPlainPath p) (hps : ∀ part ∈ ps, '/' ∉ part.toList)
    (hp : d.Reaches p)
    (hdirectories : ∀ m ∈ passesFrom (place p) ps, d.entry? m = some .directory) :
    d.Reaches (extended p ps) := by
  induction ps generalizing p with
  | nil => exact hp
  | cons part ps ih =>
      rw [List.forall_mem_cons] at hps
      rw [passesFrom, List.forall_mem_cons] at hdirectories
      rw [extended, List.foldl_cons, h.continued_eq]
      exact ih (h.join (not_isAbsolute_of_not_mem hps.1)) hps.2
        (reaches_join h.ne_empty hps.1 hp hdirectories.1)
        (place_join h.ne_empty hps.1 ▸ hdirectories.2)

/-- The path that is continued by names of entries. -/
theorem extended_names (h : p ≠ "") (hnames : ∀ name ∈ names, IsEntryName name) :
    extended p names ≠ "" ∧ isAbsolute (extended p names) = isAbsolute p ∧
      stepsOf (extended p names) = stepsOf p ++ names.map .normal := by
  induction names generalizing p with
  | nil => exact ⟨h, rfl, by simp [extended]⟩
  | cons name names ih =>
      rw [List.forall_mem_cons] at hnames
      obtain ⟨hempty, -, -, hslash⟩ := hnames.1
      obtain ⟨hne, habsolute, hsteps⟩ := ih (continued_ne_empty h fun _ => hempty) hnames.2
      refine ⟨hne, habsolute.trans (isAbsolute_continued h hslash), ?_⟩
      rw [stepsOf_continued h hslash, ofPart?_of_isEntryName hnames.1] at hsteps
      rw [extended, List.foldl_cons, ← extended, hsteps]
      simp

end

/-! ## Paths that are rebuilt -/

section

variable {p : String}

/-- The row of a path in the working directory starts with a path of its own. -/
theorem IsPlainPath.exists_rowOf (h : IsPlainPath p) (hrelative : isAbsolute p = false) :
    ∃ first rest, rowOf p = first :: rest ∧ IsPlainPath first ∧ '/' ∉ first.toList := by
  have hparts := parts_eq h.ne_empty
  have hempty := head?_parts_ne_empty h.ne_empty hrelative
  have hhead := h.head
  rw [hparts, hrelative, if_neg Bool.false_ne_true, List.nil_append] at hempty hhead
  cases hrow : rowOf p with
  | nil =>
      -- then the path would be empty or a slash
      rw [hrow, List.nil_append, hrelative, if_neg Bool.false_ne_true, List.nil_append] at hparts
      rw [hrow, List.nil_append] at hempty
      split_ifs at hparts hempty
      · exact absurd rfl hempty
      · exact absurd hparts (parts_ne_nil p)
  | cons first rest =>
      rw [hrow] at hempty hhead
      have hslash : '/' ∉ first.toList :=
        slash_not_mem_of_mem_rowOf h.ne_empty (hrow ▸ List.mem_cons_self)
      refine ⟨first, rest, rfl, ⟨?_, ?_⟩, hslash⟩
      · rintro rfl
        exact hempty rfl
      · rw [parts_of_not_mem hslash]
        exact hhead

/-- The path of the row that is followed has the components of the path. -/
theorem extended_rowOf (h : IsPlainPath p) :
    IsPlainPath (extended (base p) (rowOf p)) ∧
      components (extended (base p) (rowOf p)) = components p := by
  have hslash : ∀ part ∈ rowOf p, '/' ∉ part.toList := fun part hpart =>
    slash_not_mem_of_mem_rowOf h.ne_empty hpart
  rw [h.components_eq, stepsOf_eq h.ne_empty]
  by_cases habsolute : isAbsolute p = true
  · have hroot : components "/" = [.root] := by decide +kernel
    rw [base, if_pos habsolute, if_pos habsolute, components_extended isPlainPath_root hslash, hroot]
    exact ⟨isPlainPath_extended isPlainPath_root hslash, rfl⟩
  · obtain ⟨first, rest, hrow, hfirst, hone⟩ := h.exists_rowOf (by simpa using habsolute)
    rw [hrow, List.forall_mem_cons] at hslash
    rw [base, if_neg habsolute, if_neg habsolute, hrow, extended, List.foldl_cons, continued_dot,
      ← extended, components_extended hfirst hslash.2, hfirst.components_eq,
      not_isAbsolute_of_not_mem hone, stepsOf_part hone]
    refine ⟨isPlainPath_extended hfirst hslash.2, ?_⟩
    cases hpart : ofPart? first <;> simp [hpart]

end

/-! ## Names of entries -/

section

variable {l m : Location} {names : List String}

theorem filterMap_ofPart?_names (h : ∀ name ∈ names, IsEntryName name) :
    names.filterMap ofPart? = names.map .normal := by
  induction names with
  | nil => rfl
  | cons name names ih =>
      rw [List.forall_mem_cons] at h
      rw [List.filterMap_cons, ofPart?_of_isEntryName h.1, ih h.2]
      rfl

theorem walk_names (h : ∀ name ∈ names, IsEntryName name) : walk l names = l ++ names := by
  rw [walk_eq_placeFrom, filterMap_ofPart?_names h, placeFrom_map_normal]

/-- The path below a directory is known by the names that lead to it. -/
theorem components_extended_names {p : String} (h : IsPlainPath p)
    (hnames : ∀ name ∈ names, IsEntryName name) :
    components (extended p names) = components p ++ names.map .normal := by
  rw [components_extended h fun name hname => (hnames name hname).2.2.2,
    filterMap_ofPart?_names hnames]

end

end Rowsmith.Disk
