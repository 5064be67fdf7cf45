/-
# Spellings of a directory

A path in the working directory may be spelled with a step to the same directory in
front. It leads where it led before, and the same files are found below it, without
that step. But the two spellings are not the same row of components, so what is found
does not go on from the longer one: the modules of source files keep the names of the
directories that lead to them, and a marked file below is taken for one that the run
does not write. `spelled_alike_iff` says when a run does not see the difference.
-/

import Mathlib.Data.List.Perm.Basic
import Rowsmith.Command.Sources
import Rowsmith.Proofs.Disk.Listing
import Rowsmith.Proofs.Output.Regeneration
import Rowsmith.Proofs.Text.Segments

namespace Rowsmith

namespace Disk

open Rowsmith.Disk.Path

/-! ## A step to the same directory -/

/-- A path that starts in the working directory. -/
structure IsRelative (p : String) : Prop where
  ne_empty : p ≠ ""
  relative : isAbsolute p = false

/-- The path with a step to the same directory in front. -/
def dotted (p : String) : String :=
  "./" ++ p

theorem dotted_eq (p : String) : dotted p = "." ++ "/" ++ p := by
  simp [dotted]

theorem parts_dotted (p : String) : parts (dotted p) = "." :: parts p := by
  rw [dotted_eq, parts_append_slash, parts_of_not_mem (by decide), List.singleton_append]

theorem isRelative_dotted (p : String) : IsRelative (dotted p) := by
  refine ⟨by simp [dotted_eq], ?_⟩
  rw [dotted_eq, isAbsolute_append_slash _ (by decide)]
  decide +kernel

theorem components_dotted (p : String) :
    components (dotted p) = .current :: (parts p).filterMap ofPart? := by
  have hhead : (parts (dotted p)).head? = some "." := by rw [parts_dotted]; rfl
  rw [components_eq, (isRelative_dotted p).relative, if_neg Bool.false_ne_true, if_pos hhead,
    parts_dotted, List.filterMap_cons_none (by decide)]
  rfl

/-- A path that starts with a step to the same directory has the same components with
another one. -/
theorem components_dotted_of_current {p : String}
    (h : (components p).head? = some .current) : components (dotted p) = components p := by
  rw [components_dotted]
  rcases components_cases p with ⟨-, hp⟩ | ⟨-, hp⟩ | ⟨-, -, hp⟩
  · simp [hp] at h
  · exact hp.symm
  · rw [hp] at h
    exact absurd rfl (ne_of_mem_filterMap_ofPart? (List.mem_of_mem_head? h)).2

/-- Any other path in the working directory gets the step as a component. -/
theorem components_dotted_of_ne {p : String} (hp : IsRelative p)
    (h : (components p).head? ≠ some .current) :
    components (dotted p) = .current :: components p := by
  rw [components_dotted]
  rcases components_cases p with ⟨habsolute, -⟩ | ⟨-, hcurrent⟩ | ⟨-, -, hparts⟩
  · rw [hp.relative] at habsolute
    cases habsolute
  · exact absurd (by rw [hcurrent]; rfl) h
  · rw [hparts]

/-- Both spellings lead to the same. -/
theorem find_dotted {d : Disk} {p : String} (hp : IsRelative p) : d.find (dotted p) = d.find p := by
  have hempty : (dotted p).isEmpty = false := by simpa using (isRelative_dotted p).ne_empty
  have hempty' : p.isEmpty = false := by simpa using hp.ne_empty
  have hroot : d.entry? [] = some .directory := rfl
  have hlocate : d.locate (dotted p) = d.locate p := by
    simp only [locate, start, hempty, hempty', (isRelative_dotted p).relative, hp.relative,
      Bool.false_eq_true, if_false]
    rw [parts_dotted, follow_cons_of_directory hroot]
    rfl
  rw [find, find, hlocate]

theorem readText_dotted {d : Disk} {p : String} (hp : IsRelative p) :
    d.readText (dotted p) = d.readText p := by
  rw [readText, readText, find_dotted hp]

theorem isDirectory_dotted {d : Disk} {p : String} (hp : IsRelative p) :
    d.isDirectory (dotted p) = d.isDirectory p := by
  rw [isDirectory, isDirectory, find_dotted hp]

theorem endsWith_dotted {p : String} (hp : p ≠ "") :
    (dotted p).endsWith "/" = p.endsWith "/" := by
  rw [Bool.eq_iff_iff, String.endsWith_eq_endsWith_toSlice, String.endsWith_eq_endsWith_toSlice,
    String.Slice.endsWith_string_iff, String.Slice.endsWith_string_iff]
  simp [dotted, List.suffix_cons_iff, hp]

theorem rowOf_dotted {p : String} (hp : IsRelative p) : rowOf (dotted p) = "." :: rowOf p := by
  simp only [rowOf, endsWith_dotted hp.ne_empty, parts_dotted, (isRelative_dotted p).relative,
    hp.relative, List.dropLast_cons_of_ne_nil (parts_ne_nil p), Bool.false_eq_true, if_false]
  split <;> rfl

theorem isPlainText_dotted {p : String} (h : IsPlainText p) : IsPlainText (dotted p) := by
  intro c hc
  simp only [dotted, String.toList_append, List.mem_append] at hc
  rcases hc with hc | hc
  · have hstep : ∀ c ∈ "./".toList, c ≠ '?' ∧ c ≠ '*' ∧ c ≠ '[' := by simp
    exact hstep c hc
  · exact h c hc

/-- The same paths are found below both spellings. -/
theorem exists_glob_dotted {p last : String} {pieces : List Piece} (hplain : IsPlainText p)
    (hp : IsRelative p) (hlast : IsLastName last pieces) (d : Disk) :
    ∃ paths, d.glob (join (join p "**") last) = .ok paths ∧
      d.glob (join (join (dotted p) "**") last) = .ok paths := by
  have hbase : base (dotted p) = base p := by
    rw [base, base, (isRelative_dotted p).relative, hp.relative]
  have hworking : base p = "." := by
    rw [base, hp.relative, if_neg Bool.false_ne_true]
  have hhere : d.entry? (start p) = some .directory := by
    rw [start, hp.relative, if_neg Bool.false_ne_true]
    rfl
  have hdot : d.expand
        (.plain "." :: ((rowOf p).map .plain ++ [.anyDepth, .loose pieces])) (base p) =
      d.expand ((rowOf p).map .plain ++ [.anyDepth, .loose pieces]) (base p) := by
    rw [expand, isDirectory_base p hhere, hworking, continued_dot]
    simp
  refine ⟨_, glob_below hplain hp.ne_empty hlast d, ?_⟩
  rw [glob_below (isPlainText_dotted hplain) (isRelative_dotted p).ne_empty hlast, hbase,
    rowOf_dotted hp, List.map_cons, List.cons_append, hdot]

/-- A path in the working directory that does not start with a step to the same
directory starts with a name or a step upwards. -/
theorem isPlainPath_of_ne {p : String} (hp : IsRelative p)
    (h : (components p).head? ≠ some .current) : IsPlainPath p := by
  refine ⟨hp.ne_empty, fun hhead => h ?_⟩
  rw [components_eq, hp.relative, if_neg Bool.false_ne_true, if_pos hhead]
  rfl

end Disk

namespace Command

open Disk Code Output Text

/-! ## Modules of source files -/

theorem isLastName_source :
    IsLastName "*.rs" [.anyRun, .exactly '.', .exactly 'r', .exactly 's'] where
  ne_empty := by decide
  slash_not_mem := by decide
  ofText := by decide +kernel
  loose := by decide
  afterDepth position := by simp [Piece.ofChars, Except.map]

theorem mem_insertPath {p q : String} {qs : List String} (h : q ∈ insertPath p qs) :
    q = p ∨ q ∈ qs := by
  induction qs with
  | nil => simpa [insertPath] using h
  | cons r qs ih =>
      rw [insertPath] at h
      split at h
      · exact .inr h
      · split at h
        · exact List.mem_cons.mp h
        · rcases List.mem_cons.mp h with rfl | h
          · exact .inr List.mem_cons_self
          · exact (ih h).imp_right (List.mem_cons_of_mem _)

theorem mem_of_mem_foldl_insertPath {q : String} {ps qs : List String}
    (h : q ∈ ps.foldl (fun sorted p => insertPath p sorted) qs) : q ∈ ps ∨ q ∈ qs := by
  induction ps generalizing qs with
  | nil => exact .inr h
  | cons p ps ih =>
      rcases ih h with hps | hinsert
      · exact .inl (List.mem_cons_of_mem _ hps)
      · rcases mem_insertPath hinsert with rfl | hqs
        · exact .inl List.mem_cons_self
        · exact .inr hqs

section

variable {d : Disk} {p : String}

/-- The same source files are found below both spellings. Below a path that does not start
with a step to the same directory they go on from the path. -/
theorem exists_sourceFiles (htree : d.IsTree) (hplain : IsPlainText p) (hp : IsRelative p) :
    ∃ files, sourceFiles d p = .ok files ∧ sourceFiles d (dotted p) = .ok files ∧
      ((Path.components p).head? ≠ some .current → ∀ f ∈ files, Path.IsBelow p f) := by
  obtain ⟨paths, hglob, hdotted⟩ := exists_glob_dotted hplain hp isLastName_source d
  refine ⟨(paths.filter d.isFile).foldl (fun sorted p => insertPath p sorted) [], ?_, ?_, ?_⟩
  · simp only [sourceFiles, sourcePattern, hglob]
  · simp only [sourceFiles, sourcePattern, hdotted]
  · intro hne f hf
    obtain ⟨spell, hspelled, hlisting⟩ :=
      exists_glob hplain (isPlainPath_of_ne hp hne) isLastName_source
    obtain ⟨paths', hglob', hlists⟩ := hlisting d htree
    obtain rfl := Except.ok.inj (hglob.symm.trans hglob')
    have hmem := (mem_of_mem_foldl_insertPath hf).resolve_right List.not_mem_nil
    obtain ⟨names, hne, hnames, -, rfl⟩ := hlists.sound f (List.mem_filter.mp hmem).1
    exact ⟨names, hne, hspelled names hnames⟩

end

/-- The names of the module of the file `name` in the given directories below the root. -/
def moduleNames (directories : List String) (name : String) : List String :=
  let stem := Path.stemOfName name
  if stem = "mod" || (directories.isEmpty && (stem = "lib" || stem = "main")) then directories
  else directories ++ [stem]

/-- The module of a file is named by the components after those of the root, or by all if
the file does not go on from the root. -/
theorem moduleOf_eq {root file name : String} {directories : List Component}
    (h : (if Path.startsWith file root then
        (Path.components file).drop (Path.components root).length else Path.components file) =
      directories ++ [.normal name]) :
    moduleOf root file =
      joinSegments ("crate" :: moduleNames (directories.map Component.text) name) := by
  have hroot : directories ++ [Component.normal name] ≠ [.root] := by
    intro heq
    have hlast := congrArg List.getLast? heq
    simp at hlast
  simp only [moduleOf, h, List.getLast?_concat, List.dropLast_concat, if_neg hroot, moduleNames]

/-- More directories in front make more names. -/
theorem exists_moduleNames_append {before : List String} (hbefore : before ≠ [])
    (directories : List String) (name : String) :
    ∃ after, moduleNames (before ++ directories) name =
      before ++ moduleNames directories name ++ after := by
  have hempty : (before ++ directories).isEmpty = false := by simp [hbefore]
  simp only [moduleNames, hempty, Bool.false_and, Bool.or_false]
  generalize Path.stemOfName name = stem
  by_cases hmod : stem = "mod"
  · exact ⟨[], by simp [hmod]⟩
  · cases hroot : directories.isEmpty && (decide (stem = "lib") || decide (stem = "main")) with
    | true => exact ⟨[stem], by simp [hmod]⟩
    | false => exact ⟨[], by simp [hmod]⟩

/-- More directories in front make a longer name of a module. -/
theorem joinSegments_moduleNames_ne {before : List String} (hbefore : before ≠ [])
    (directories : List String) (name : String) :
    joinSegments ("crate" :: moduleNames (before ++ directories) name) ≠
      joinSegments ("crate" :: moduleNames directories name) := by
  obtain ⟨after, hafter⟩ := exists_moduleNames_append hbefore directories name
  obtain ⟨first, rest, rfl⟩ := List.exists_cons_of_ne_nil hbefore
  intro heq
  have hlength := congrArg String.length heq
  rw [length_joinSegments, length_joinSegments, hafter] at hlength
  simp only [List.flatMap_append, List.flatMap_cons, List.length_append, List.length_cons]
    at hlength
  omega

section

variable {d : Disk} {p file name : String} {directories : List String}

/-- The module of a file in some directories below the root is named by these. -/
theorem moduleOf_below
    (h : Path.components file = Path.components p ++ (directories ++ [name]).map .normal) :
    moduleOf p file = joinSegments ("crate" :: moduleNames directories name) := by
  have hbelow : Path.startsWith file p = true := by
    rw [Path.startsWith, h, List.isPrefixOf_iff_prefix]
    exact List.prefix_append _ _
  have hdrop : (if Path.startsWith file p then
      (Path.components file).drop (Path.components p).length else Path.components file) =
      directories.map .normal ++ [.normal name] := by
    rw [if_pos hbelow, h, List.drop_left, List.map_append, List.map_singleton]
  rw [moduleOf_eq hdrop, List.map_map]
  simp [Function.comp_def, Component.text]

/-- A file that goes on from a path does not go on from its other spelling. -/
theorem not_startsWith_dotted (hp : IsRelative p)
    (hcurrent : (Path.components p).head? ≠ some .current)
    (h : Path.components p <+: Path.components file) :
    Path.startsWith file (dotted p) = false := by
  obtain ⟨after, hafter⟩ := h
  obtain ⟨first, rest, hfirst⟩ := List.exists_cons_of_ne_nil (Path.components_ne_nil hp.ne_empty)
  rw [Path.startsWith, components_dotted_of_ne hp hcurrent, ← hafter, hfirst, Bool.eq_false_iff,
    ne_eq, List.isPrefixOf_iff_prefix, List.cons_append, List.cons_prefix_cons]
  rintro ⟨rfl, -⟩
  rw [hfirst] at hcurrent
  exact hcurrent rfl

/-- A source file that goes on from the path is in another module for the other spelling. -/
theorem moduleOf_dotted_ne (hp : IsRelative p)
    (hcurrent : (Path.components p).head? ≠ some .current) (hfile : Path.IsBelow p file) :
    moduleOf (dotted p) file ≠ moduleOf p file := by
  obtain ⟨names, hne, hcomponents⟩ := hfile
  obtain ⟨directories, name, rfl⟩ := (List.eq_nil_or_concat names).resolve_left hne
  rw [List.concat_eq_append] at hcomponents
  have hdotted : moduleOf (dotted p) file = joinSegments
      ("crate" :: moduleNames ((Path.components p).map Component.text ++ directories) name) := by
    have hdrop : (if Path.startsWith file (dotted p) then
        (Path.components file).drop (Path.components (dotted p)).length
        else Path.components file) =
        (Path.components p ++ directories.map .normal) ++ [.normal name] := by
      rw [not_startsWith_dotted hp hcurrent (hcomponents ▸ List.prefix_append _ _),
        if_neg Bool.false_ne_true, hcomponents, List.map_append, List.map_singleton,
        List.append_assoc]
    rw [moduleOf_eq hdrop, List.map_append, List.map_map]
    simp [Function.comp_def, Component.text]
  -- the directories that lead to the path stay in the name of the module
  rw [hdotted, moduleOf_below hcomponents]
  exact joinSegments_moduleNames_ne (by simpa using Path.components_ne_nil hp.ne_empty) _ _

/-- The components of the root are all that the module of a file depends on. -/
theorem moduleOf_congr {root root' : String} (h : Path.components root = Path.components root')
    (file : String) : moduleOf root file = moduleOf root' file := by
  have hbelow : Path.startsWith file root = Path.startsWith file root' := by
    rw [Path.startsWith, Path.startsWith, h]
  simp only [moduleOf, hbelow, h]

theorem collectFiles_congr {root root' : String}
    (h : Path.components root = Path.components root') (set : DeclSet) (files : List String) :
    collectFiles d root set files = collectFiles d root' set files := by
  induction files generalizing set with
  | nil => rfl
  | cons file files ih => simp only [collectFiles, moduleOf_congr h, ih]

end

/-! ## Plans -/

/-- A step to the same directory at the start left out. -/
def withoutCurrent : List Component → List Component
  | .current :: cs => cs
  | cs => cs

theorem withoutCurrent_dotted {p : String} (hp : IsRelative p) :
    withoutCurrent (Path.components (dotted p)) = withoutCurrent (Path.components p) := by
  rw [components_dotted]
  rcases Path.components_cases p with ⟨habsolute, -⟩ | ⟨-, hcurrent⟩ | ⟨-, -, hparts⟩
  · rw [hp.relative] at habsolute
    cases habsolute
  · rw [hcurrent]
  · rw [hparts, withoutCurrent]
    cases hcs : (Path.parts p).filterMap Path.ofPart? with
    | nil => rfl
    | cons c cs =>
        have hc : c ∈ (Path.parts p).filterMap Path.ofPart? := by rw [hcs]; exact List.mem_cons_self
        have hne := (Path.ne_of_mem_filterMap_ofPart? hc).2
        cases c <;> first | rfl | exact absurd rfl hne

/-- The file at the other spelling of its path. -/
def dottedFile (f : OutputFile) : OutputFile :=
  { f with path := dotted f.path }

/-- A change without the spelling of its path. -/
def meaning (c : PlannedChange) : Change × List Component :=
  (c.change, withoutCurrent (Path.components c.path))

/-- A path below a path in the working directory is in the working directory. -/
theorem isRelative_of_isBelow {p q : String} (hp : IsRelative p) (hq : Path.IsBelow p q) :
    IsRelative q := by
  obtain ⟨names, hne, hcomponents⟩ := hq
  constructor
  · rintro rfl
    have hempty : Path.components "" = [] := by decide +kernel
    rw [hempty] at hcomponents
    simp [hne] at hcomponents
  · obtain ⟨hstart, -⟩ := Path.filterMap_parts_of_isBelow hp.ne_empty hcomponents
    by_contra habsolute
    simp [start, habsolute, hp.relative] at hstart

section

variable {d : Disk} {p : String} {files : List OutputFile}

theorem changeFor?_dottedFile {f : OutputFile} (hf : IsRelative f.path) :
    (changeFor? d (dottedFile f)).map meaning = (changeFor? d f).map meaning := by
  unfold changeFor? dottedFile
  rw [readText_dotted hf]
  cases d.readText f.path with
  | error e => simp [meaning, withoutCurrent_dotted hf]
  | ok text => by_cases htext : text = f.content <;> simp [htext, meaning, withoutCurrent_dotted hf]

theorem map_meaning_dottedFile (hfiles : ∀ f ∈ files, IsRelative f.path) :
    ((files.map dottedFile).filterMap (changeFor? d)).map meaning =
      (files.filterMap (changeFor? d)).map meaning := by
  rw [List.filterMap_map, List.map_filterMap, List.map_filterMap]
  exact List.filterMap_congr fun f hf => changeFor?_dottedFile (hfiles f hf)

theorem markedFiles_dotted (hplain : IsPlainText p) (hp : IsRelative p) :
    ∃ marked, markedFiles d p = .ok marked ∧ markedFiles d (dotted p) = .ok marked := by
  obtain ⟨paths, hglob, hdotted⟩ := exists_glob_dotted hplain hp isLastName_anyRun d
  rw [markedFiles, markedFiles, isDirectory_dotted hp, patternBelow, patternBelow, hglob, hdotted]
  split
  · exact ⟨_, rfl, rfl⟩
  · exact ⟨[], rfl, rfl⟩

/-- The marked files that a run does not write. -/
def staleOf (files : List OutputFile) (marked : List String) : List String :=
  marked.filter fun q => !files.any fun f => Path.same f.path q

/-- The changes of a plan, in some order. -/
theorem exists_plan {marked : List String} (files : List OutputFile)
    (hmarked : markedFiles d p = .ok marked) :
    ∃ a, plan d files p = .ok a ∧
      a.changes.Perm (files.filterMap (changeFor? d) ++
        (staleOf files marked).map (PlannedChange.mk .remove)) ∧
      a.unchanged = files.length - (files.filterMap (changeFor? d)).length :=
  ⟨_, plan_eq_ok_iff.mpr ⟨marked, hmarked, rfl⟩, List.mergeSort_perm _ _, rfl⟩

/-- Below a path that starts with a step to the same directory another one changes nothing. -/
theorem staleOf_dottedFile_of_current (hcurrent : (Path.components p).head? = some .current)
    (hfiles : ∀ f ∈ files, Path.IsBelow p f.path) (marked : List String) :
    staleOf (files.map dottedFile) marked = staleOf files marked := by
  have hsame : ∀ f ∈ files, Path.components (dotted f.path) = Path.components f.path := by
    intro f hf
    obtain ⟨names, -, hcomponents⟩ := hfiles f hf
    refine components_dotted_of_current ?_
    rw [hcomponents, List.head?_append, hcurrent]
    rfl
  refine List.filter_congr fun q _ => ?_
  rw [List.any_map]
  congr 1
  refine Bool.eq_iff_iff.mpr ?_
  simp only [List.any_eq_true, Function.comp_apply, dottedFile, Path.same_iff]
  exact exists_congr fun f => and_congr_right fun hf => by rw [hsame f hf]

/-- Otherwise no file with the other spelling is taken for one that is found. -/
theorem staleOf_dottedFile_of_ne (hp : IsRelative p)
    (hcurrent : (Path.components p).head? ≠ some .current)
    (hfiles : ∀ f ∈ files, Path.IsBelow p f.path) {marked : List String}
    (hmarked : ∀ q ∈ marked, Path.IsBelow p q) :
    staleOf (files.map dottedFile) marked = marked := by
  have hhead : ∀ q, Path.IsBelow p q → (Path.components q).head? ≠ some .current := by
    rintro q ⟨names, -, hcomponents⟩
    obtain ⟨first, rest, hfirst⟩ := List.exists_cons_of_ne_nil (Path.components_ne_nil hp.ne_empty)
    rw [hcomponents, hfirst]
    rwa [hfirst] at hcurrent
  refine List.filter_eq_self.mpr fun q hq => ?_
  simp only [Bool.not_eq_true', List.any_map, List.any_eq_false, Function.comp_apply, dottedFile,
    Path.same_iff]
  intro f hf heq
  have hf := hfiles f hf
  rw [components_dotted_of_ne (isRelative_of_isBelow hp hf) (hhead _ hf)] at heq
  exact hhead q (hmarked q hq) (by rw [← heq]; rfl)

/-- All marked files are stale exactly if no file of the run leads to one of them. -/
theorem staleOf_eq_self_iff (htree : d.IsTree) (hlists : ListsFiles p)
    (hfiles : ∀ f ∈ files, Path.IsBelow p f.path) {marked : List String}
    (hmarked : markedFiles d p = .ok marked) :
    staleOf files marked = marked ↔ (d.isDirectory p = true → ∀ f ∈ files, ∀ content,
      d.file? (Path.place f.path) = some content → carriesMark content = false) := by
  obtain ⟨marked', hmarked', hbelow, hcomplete⟩ := exists_markedFiles htree hlists
  obtain rfl := Except.ok.inj (hmarked.symm.trans hmarked')
  rw [staleOf, List.filter_eq_self]
  simp only [Bool.not_eq_true', List.any_eq_false, Bool.not_eq_true]
  constructor
  · intro hfresh hdirectory f hf content hfile
    rw [Bool.eq_false_iff]
    intro hmark
    obtain ⟨q, hq, hplace⟩ := hcomplete hdirectory (Path.place f.path) content
      ⟨(hfiles f hf).isUnder, hfile, hmark⟩
    have hsame := (Path.same_iff_place_eq (hfiles f hf) (hbelow q hq)).mpr hplace.symm
    rw [hfresh q hq f hf] at hsame
    cases hsame
  · intro hunmarked q hq f hf
    rw [Bool.eq_false_iff]
    intro hsame
    have hdirectory : d.isDirectory p = true := by
      by_contra hnone
      rw [markedFiles, if_neg hnone] at hmarked
      cases hmarked
      cases hq
    obtain ⟨-, content, hcontent, hmark⟩ :=
      isMarkedFile_iff_carriesMark.mp (mem_markedFiles hmarked hq)
    rw [← Path.place_eq_of_same hsame, ← file?_eq_some_iff] at hcontent
    rw [hunmarked hdirectory f hf content hcontent] at hmark
    cases hmark

end

/-- The same source files are found below a path in the working directory and below the
path with a step to the same directory in front, but in the same modules only if the path
starts with such a step already. And the two plan the same changes for the same files, up
to that step, only if the path starts with such a step already or none of the files leads
to one that carries the mark. -/
theorem spelled_alike_iff {d : Disk} {p : String} (htree : d.IsTree) (hplain : IsPlainText p)
    (hp : IsRelative p) :
    (∃ files, sourceFiles d p = .ok files ∧ sourceFiles d (dotted p) = .ok files ∧
      (∀ f ∈ files, moduleOf (dotted p) f = moduleOf p f ↔
        (Path.components p).head? = some .current) ∧
      ((Path.components p).head? = some .current →
        ∀ out, collectTree d (dotted p) out = collectTree d p out)) ∧
    ∀ files : List OutputFile, (∀ f ∈ files, Path.IsBelow p f.path) →
      ∃ a b, plan d files p = .ok a ∧ plan d (files.map dottedFile) (dotted p) = .ok b ∧
        b.unchanged = a.unchanged ∧
        ((b.changes.map meaning).Perm (a.changes.map meaning) ↔
          (Path.components p).head? = some .current ∨
            (d.isDirectory p = true → ∀ f ∈ files, ∀ content,
              d.file? (Path.place f.path) = some content → carriesMark content = false)) := by
  constructor
  · obtain ⟨files, hfiles, hdotted, hbelow⟩ := exists_sourceFiles htree hplain hp
    refine ⟨files, hfiles, hdotted, fun f hf => ⟨fun heq => ?_, fun hcurrent => ?_⟩,
      fun hcurrent out => ?_⟩
    · by_contra hne
      exact moduleOf_dotted_ne hp hne (hbelow hne f hf) heq
    · exact moduleOf_congr (components_dotted_of_current hcurrent) f
    · rw [collectTree, collectTree, hfiles, hdotted]
      exact collectFiles_congr (components_dotted_of_current hcurrent) _ _
  · intro files hbelow
    have hrelative : ∀ f ∈ files, IsRelative f.path := fun f hf =>
      isRelative_of_isBelow hp (hbelow f hf)
    obtain ⟨marked, hmarked, hdotted⟩ := markedFiles_dotted (d := d) hplain hp
    obtain ⟨a, ha, hachanges, haunchanged⟩ := exists_plan files hmarked
    obtain ⟨b, hb, hbchanges, hbunchanged⟩ := exists_plan (files.map dottedFile) hdotted
    have hwritten := map_meaning_dottedFile (d := d) hrelative
    refine ⟨a, b, ha, hb, ?_, ?_⟩
    · have hlength := congrArg List.length hwritten
      rw [List.length_map, List.length_map] at hlength
      rw [haunchanged, hbunchanged, hlength, List.length_map]
    · have hperm : (b.changes.map meaning).Perm (a.changes.map meaning) ↔
          (((staleOf (files.map dottedFile) marked).map (PlannedChange.mk .remove)).map
            meaning).Perm (((staleOf files marked).map (PlannedChange.mk .remove)).map meaning) := by
        rw [(hbchanges.map meaning).congr_left, (hachanges.map meaning).congr_right,
          List.map_append, List.map_append, hwritten, List.perm_append_left_iff]
      rw [hperm]
      by_cases hcurrent : (Path.components p).head? = some .current
      · rw [staleOf_dottedFile_of_current hcurrent hbelow]
        exact iff_of_true (.refl _) (.inl hcurrent)
      · have hlists := listsFiles_of_isPlainText hplain (isPlainPath_of_ne hp hcurrent)
        obtain ⟨marked', hmarked', hmarkedBelow, -⟩ := exists_markedFiles htree hlists
        obtain rfl := Except.ok.inj (hmarked.symm.trans hmarked')
        rw [staleOf_dottedFile_of_ne hp hcurrent hbelow hmarkedBelow,
          ← staleOf_eq_self_iff htree hlists hbelow hmarked, or_iff_right hcurrent]
        constructor
        · intro hperm
          have hlength := hperm.length_eq
          simp only [List.length_map] at hlength
          exact List.filter_sublist.eq_of_length hlength.symm
        · intro heq
          rw [heq]

/-- A disk with a marked file in the output directory. -/
def cabinet : Disk :=
  ⟨[(["out"], .directory), (["out", "a.rs"], .file (.text (header ++ "\n")))]⟩

theorem spelled_alike_iff_cabinet :
    (∃ files, sourceFiles cabinet "out" = .ok files ∧
      sourceFiles cabinet (dotted "out") = .ok files ∧
      ∀ f ∈ files, moduleOf (dotted "out") f ≠ moduleOf "out" f) ∧
    ∃ a b, plan cabinet [⟨"out/a.rs", header ++ "\n"⟩] "out" = .ok a ∧
      plan cabinet [⟨dotted "out/a.rs", header ++ "\n"⟩] (dotted "out") = .ok b ∧
      ¬ (b.changes.map meaning).Perm (a.changes.map meaning) := by
  have htree : cabinet.IsTree := isTree_of_entries (by decide +kernel)
  have hp : IsRelative "out" := ⟨by decide, by decide +kernel⟩
  have hcurrent : (Path.components "out").head? ≠ some .current := by decide +kernel
  have hboth := spelled_alike_iff htree (by decide) hp
  obtain ⟨⟨files, hfiles, hdotted, hmodules, -⟩, hplans⟩ := hboth
  obtain ⟨a, b, ha, hb, -, hiff⟩ := hplans [⟨"out/a.rs", header ++ "\n"⟩]
    (by simpa using ⟨["a.rs"], by decide, by decide +kernel⟩)
  refine ⟨⟨files, hfiles, hdotted, fun f hf => mt (hmodules f hf).mp hcurrent⟩, a, b, ha, hb, ?_⟩
  intro hperm
  have hunmarked := (hiff.mp hperm).resolve_left hcurrent (by decide +kernel) _ List.mem_cons_self
    (.text (header ++ "\n")) (by decide +kernel)
  exact absurd hunmarked (by decide +kernel)

/-- A second run right after a first one removes what that has written, if the output
directory is spelled with a step to the same directory. -/
theorem rerun_removes_dotted :
    ∃ s d', (apply [⟨"./out/a.rs", header ++ "\n"⟩] "./out" {}).on {} = (.ok s, d') ∧
      plan d' [⟨"./out/a.rs", header ++ "\n"⟩] "./out" = .ok ⟨[⟨.remove, "out/a.rs"⟩], 1⟩ ∧
      moduleOf "./out" "out/a.rs" = "crate::out::a" ∧ moduleOf "out" "out/a.rs" = "crate::a" := by
  obtain ⟨s, hrun⟩ := exists_summary {} [⟨"./out/a.rs", header ++ "\n"⟩] "./out" []
    [⟨.create, "./out/a.rs"⟩]
    (by decide +kernel) (by decide +kernel) (by decide +kernel) ⟨by decide +kernel, rfl⟩
  exact ⟨s, _, hrun, eq_ok_of_toOption (by decide +kernel), by decide +kernel, by decide +kernel⟩

end Command

end Rowsmith
