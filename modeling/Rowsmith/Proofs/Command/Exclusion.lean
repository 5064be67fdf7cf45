/-
# What a run reads of what it wrote

The output directory may lie below the source directory, and then a run has to leave
its own files out when it looks for sources. A file is left out if it goes on from
the path of the output directory, component by component. `isSeparate_iff` says for
which paths this is enough: for those that go on from the path of the source
directory without a step upwards. No source file is spelled with such a step, so
otherwise nothing is left out.
-/

import Rowsmith.Proofs.Command.Selection
import Rowsmith.Proofs.Command.Spelling
import Rowsmith.Proofs.Disk.Openness
import Rowsmith.Proofs.Disk.PathOrder
import Rowsmith.Proofs.Disk.Scaffold

namespace Rowsmith.Command

open Disk

/-! ## Ordered paths -/

section

variable {p q : String} {ps qs : List String}

/-- Paths in order, without two spellings of one. -/
def IsOrdered (ps : List String) : Prop :=
  ps.Pairwise fun p q => Path.orderKey p < Path.orderKey q

theorem isOrdered_insertPath (h : IsOrdered qs) : IsOrdered (insertPath p qs) := by
  induction qs with
  | nil => exact List.pairwise_singleton _ p
  | cons q qs ih =>
      obtain ⟨hq, hqs⟩ := List.pairwise_cons.mp h
      rw [insertPath]
      split
      next => exact h
      next hdiffer =>
        rw [Path.same_iff_orderKey] at hdiffer
        split
        next hbefore =>
          have hlt := lt_of_le_of_ne (Path.notAfter_iff.mp hbefore) hdiffer
          refine List.pairwise_cons.mpr ⟨fun r hr => ?_, h⟩
          rcases List.mem_cons.mp hr with rfl | hr
          · exact hlt
          · exact hlt.trans (hq r hr)
        next hafter =>
          rw [Path.notAfter_iff, not_le] at hafter
          refine List.pairwise_cons.mpr ⟨fun r hr => ?_, ih hqs⟩
          rcases mem_insertPath hr with rfl | hr
          · exact hafter
          · exact hq r hr

/-- A path that is inserted is there in some spelling, and no other is lost. -/
theorem exists_mem_insertPath {r : String} (h : r = p ∨ r ∈ qs) :
    ∃ q ∈ insertPath p qs, Path.orderKey q = Path.orderKey r := by
  induction qs with
  | nil =>
      obtain rfl := h.resolve_right List.not_mem_nil
      exact ⟨r, List.mem_singleton_self r, rfl⟩
  | cons q qs ih =>
      rw [insertPath]
      split
      next hsame =>
        rcases h with rfl | hr
        · exact ⟨q, List.mem_cons_self, (Path.same_iff_orderKey.mp hsame).symm⟩
        · exact ⟨r, hr, rfl⟩
      next =>
        split
        next => exact ⟨r, List.mem_cons.mpr h, rfl⟩
        next =>
          rcases h with rfl | hr
          · obtain ⟨s, hs, hkey⟩ := ih (.inl rfl)
            exact ⟨s, List.mem_cons_of_mem q hs, hkey⟩
          · rcases List.mem_cons.mp hr with rfl | hr
            · exact ⟨r, List.mem_cons_self, rfl⟩
            · obtain ⟨s, hs, hkey⟩ := ih (.inr hr)
              exact ⟨s, List.mem_cons_of_mem q hs, hkey⟩

theorem isOrdered_foldl_insertPath (h : IsOrdered qs) :
    IsOrdered (ps.foldl (fun sorted p => insertPath p sorted) qs) := by
  induction ps generalizing qs with
  | nil => exact h
  | cons p ps ih => exact ih (isOrdered_insertPath h)

theorem exists_mem_foldl_insertPath {r : String} (h : r ∈ ps ∨ r ∈ qs) :
    ∃ q ∈ ps.foldl (fun sorted p => insertPath p sorted) qs,
      Path.orderKey q = Path.orderKey r := by
  induction ps generalizing qs r with
  | nil => exact ⟨r, h.resolve_left List.not_mem_nil, rfl⟩
  | cons p ps ih =>
      have hnext : ∃ s, (s ∈ ps ∨ s ∈ insertPath p qs) ∧ Path.orderKey s = Path.orderKey r := by
        rw [List.mem_cons, or_right_comm, or_comm (b := r ∈ ps)] at h
        rcases h with hr | hr
        · exact ⟨r, .inl hr, rfl⟩
        · obtain ⟨s, hs, hkey⟩ := exists_mem_insertPath hr
          exact ⟨s, .inr hs, hkey⟩
      obtain ⟨s, hs, hkey⟩ := hnext
      obtain ⟨q, hq, hqkey⟩ := ih hs
      exact ⟨q, hq, hqkey.trans hkey⟩

/-- There is one list in order with given members. -/
theorem IsOrdered.eq_of_mem_iff (hps : IsOrdered ps) (hqs : IsOrdered qs)
    (h : ∀ r, r ∈ ps ↔ r ∈ qs) : ps = qs := by
  have hasymm : Std.Asymm fun p q : String => Path.orderKey p < Path.orderKey q :=
    ⟨fun _ _ => lt_asymm⟩
  exact List.Pairwise.eq_of_mem_iff hps hqs h

end

/-! ## Source files -/

/-- The names lead from the directory `root` down to a source file. -/
structure IsSource (d : Disk) (root : String) (names : List String) : Prop where
  entries : ∀ name ∈ names, IsEntryName name
  directory : d.isDirectory root = true
  file : ∃ content, d.file? (Path.place root ++ names) = some content
  ending : ∃ stem, names.getLast? = some (stem ++ ".rs")

/-- The source files below `root` are found on every disk, and each is spelled as the path
`root` and the names that lead to the file from there. -/
structure Spells (root : String) (spell : List String → String) : Prop where
  components : ∀ names, (∀ name ∈ names, IsEntryName name) →
    Path.components (spell names) = Path.components root ++ names.map .normal
  found : ∀ d : Disk, d.IsTree → ∃ paths, d.glob (sourcePattern root) = .ok paths ∧
    ∀ q, q ∈ paths ∧ d.isFile q = true ↔ ∃ names, IsSource d root names ∧ q = spell names

/-- The disks have the same files except below `out`, and both or none have the directory
`root`. -/
structure AgreesOutside (root out : String) (d d' : Disk) : Prop where
  files : ∀ l, ¬ IsUnder (Path.place out) l → d.file? l = d'.file? l
  directory : d.isDirectory root = d'.isDirectory root

/-- No run sees a difference between disks that differ below its output directory only. -/
def IsSeparate (root out : String) : Prop :=
  ∀ d d' : Disk, d.IsTree → d'.IsTree → AgreesOutside root out d d' →
    ∀ listed o, generate d root out listed o = generate d' root out listed o

variable {d d' : Disk} {root out q : String} {names : List String} {spell : List String → String}

namespace Spells

variable (h : Spells root spell)

include h

/-- The empty path is not the path of a directory, but files are found below it. -/
theorem ne_empty : root ≠ "" := by
  rintro rfl
  let d : Disk := ⟨[(["a.rs"], .file (.text ""))]⟩
  obtain ⟨paths, hglob, hfound⟩ := h.found d (isTree_of_entries (by decide +kernel))
  have hone : d.glob (sourcePattern "") = .ok ["a.rs"] := by decide +kernel
  obtain rfl := Except.ok.inj (hglob.symm.trans hone)
  obtain ⟨names, hnames, -⟩ := (hfound "a.rs").mp ⟨List.mem_singleton_self _, by decide +kernel⟩
  exact absurd rfl (isDirectory_iff.mp hnames.directory).1.1

/-- A source file leads to what stands at its place. -/
theorem find_eq (htree : d.IsTree) (hnames : IsSource d root names) {content : Content}
    (hcontent : d.file? (Path.place root ++ names) = some content) :
    d.find (spell names) = .ok (.file content) := by
  obtain ⟨paths, -, hfound⟩ := h.found d htree
  obtain ⟨hreaches, -⟩ := isFile_iff.mp ((hfound _).mpr ⟨names, hnames, rfl⟩).2
  refine find_eq_ok_iff.mpr ⟨hreaches, ?_⟩
  rw [Path.place_of_components (h.components _ hnames.entries)]
  exact file?_eq_some_iff.mp hcontent

/-- The source files are listed in order, each once. -/
theorem exists_sourceFiles (htree : d.IsTree) :
    ∃ files, sourceFiles d root = .ok files ∧ IsOrdered files ∧
      ∀ q, q ∈ files ↔ ∃ names, IsSource d root names ∧ q = spell names := by
  obtain ⟨paths, hglob, hfound⟩ := h.found d htree
  have hmem : ∀ q, q ∈ paths.filter d.isFile ↔ ∃ names, IsSource d root names ∧ q = spell names :=
    fun q => List.mem_filter.trans (hfound q)
  have hmemList : ∀ q, q ∈ (paths.filter d.isFile).foldl (fun sorted p => insertPath p sorted) [] →
      ∃ names, IsSource d root names ∧ q = spell names := fun q hq =>
    (hmem q).mp ((mem_of_mem_foldl_insertPath hq).resolve_right List.not_mem_nil)
  refine ⟨(paths.filter d.isFile).foldl (fun sorted p => insertPath p sorted) [], ?_,
    isOrdered_foldl_insertPath List.Pairwise.nil, fun q => ⟨hmemList q, ?_⟩⟩
  · simp only [sourceFiles, hglob]
  · rintro ⟨names, hnames, rfl⟩
    obtain ⟨q, hq, hkey⟩ := exists_mem_foldl_insertPath (.inl ((hmem _).mpr ⟨names, hnames, rfl⟩))
    obtain ⟨names', hnames', rfl⟩ := hmemList q hq
    have hsame := Path.same_iff.mp (Path.same_iff_orderKey.mpr hkey)
    rw [h.components _ hnames.entries, h.components _ hnames'.entries, List.append_cancel_left_eq,
      List.map_inj_right fun _ _ => Component.normal.inj] at hsame
    rwa [← hsame]

end Spells

/-- The names that match the last name of the pattern end as the names of source files do. -/
theorem takes_source_iff (name : String) :
    (NamePattern.loose [.anyRun, .exactly '.', .exactly 'r', .exactly 's']).takes name = true ↔
      ∃ stem, name = stem ++ ".rs" := by
  have hend : ∀ cs, Piece.matchAll [.exactly '.', .exactly 'r', .exactly 's'] cs = true ↔
      cs = ['.', 'r', 's'] := by
    intro cs
    rcases cs with _ | ⟨a, _ | ⟨b, _ | ⟨c, _ | ⟨e, cs⟩⟩⟩⟩ <;>
      simp [Piece.matchAll, Piece.takes, @eq_comm _ _ '.', @eq_comm _ _ 'r', @eq_comm _ _ 's']
  rw [NamePattern.takes, Piece.matchAll, Piece.any_endings_iff]
  simp only [hend]
  constructor
  · rintro ⟨stem, rest, hname, rfl⟩
    exact ⟨String.ofList stem, by simp [← String.toList_inj, hname]⟩
  · rintro ⟨stem, rfl⟩
    exact ⟨stem.toList, _, by simp, rfl⟩

/-- The last of some names matches if it ends as the names of source files do. -/
theorem any_takes_source_iff {names : List String} :
    names.getLast?.any
        (NamePattern.loose [.anyRun, .exactly '.', .exactly 'r', .exactly 's']).takes = true ↔
      ∃ stem, names.getLast? = some (stem ++ ".rs") := by
  cases names.getLast? with
  | none => simp
  | some name => simp only [Option.any_some, takes_source_iff, Option.some.injEq]

/-- The sources below a path of plain text that does not start with a step to the same
directory are spelled as it is. -/
theorem exists_spells (hplain : IsPlainText root) (hroot : IsPlainPath root) :
    ∃ spell, Spells root spell := by
  obtain ⟨spell, hspelled, hlisting⟩ := exists_glob hplain hroot isLastName_source
  refine ⟨spell, hspelled, fun d htree => ?_⟩
  obtain ⟨paths, hglob, hlists⟩ := hlisting d htree
  refine ⟨paths, hglob, fun q => ⟨?_, ?_⟩⟩
  · rintro ⟨hq, hfile⟩
    obtain ⟨names, hne, hnames, htaken, rfl⟩ := hlists.sound q hq
    obtain ⟨hreaches, content, hcontent⟩ := isFile_iff.mp hfile
    have hcomponents := hspelled names hnames
    refine ⟨names, ⟨hnames, ?_, ⟨content, ?_⟩, any_takes_source_iff.mp htaken⟩, rfl⟩
    · exact isDirectory_of_isBelow hroot.ne_empty ⟨names, hne, hcomponents⟩ hreaches
    · rwa [← Path.place_of_components hcomponents, file?_eq_some_iff]
  · rintro ⟨names, hnames, rfl⟩
    obtain ⟨content, hcontent⟩ := hnames.file
    have hentry := file?_eq_some_iff.mp hcontent
    have hne : names ≠ [] := by
      rintro rfl
      obtain ⟨stem, hstem⟩ := hnames.ending
      cases hstem
    obtain ⟨hlisted, hfind⟩ := hlists.complete hnames.directory names _ hne hnames.entries hentry
      (any_takes_source_iff.mpr hnames.ending)
    obtain ⟨hreaches, hfound⟩ := find_eq_ok_iff.mp hfind
    exact ⟨hlisted, isFile_iff.mpr ⟨hreaches, content, hfound⟩⟩

/-! ## Files below the output directory -/

variable {rest : List Component}

/-- What goes on from the path of the source directory without a step upwards goes on by
names. -/
theorem exists_names_of_parent_not_mem (hroot : root ≠ "")
    (hout : Path.components out = Path.components root ++ rest) (hparent : .parent ∉ rest) :
    ∃ names : List String, rest = names.map .normal := by
  refine ⟨rest.map Component.text, ?_⟩
  have hnormal : ∀ c ∈ rest, Component.normal c.text = c := by
    intro c hc
    obtain ⟨first, cs, hfirst⟩ := List.exists_cons_of_ne_nil (Path.components_ne_nil hroot)
    have htail : c ∈ (Path.components out).tail := by
      rw [hout, hfirst]
      exact List.mem_append_right _ hc
    obtain ⟨hne, hne'⟩ := Path.ne_of_mem_tail_components htail
    cases c with
    | root => exact absurd rfl hne
    | current => exact absurd rfl hne'
    | parent => exact absurd hc hparent
    | normal name => rfl
  rw [List.map_map]
  exact ((List.map_congr_left hnormal).trans (List.map_id rest)).symm

namespace Spells

variable (h : Spells root spell)

include h

/-- A source file is left out exactly if its names go on from those of the output directory. -/
theorem startsWith_iff (hnames : IsSource d root names)
    (hout : Path.components out = Path.components root ++ rest) :
    Path.startsWith (spell names) out = true ↔ rest <+: names.map .normal := by
  rw [Path.startsWith, List.isPrefixOf_iff_prefix, hout, h.components _ hnames.entries,
    List.prefix_append_right_inj]

/-- Without a step upwards a source file is left out if it lies below the output directory. -/
theorem startsWith_of_isUnder (hnames : IsSource d root names)
    (hout : Path.components out = Path.components root ++ rest) (hparent : .parent ∉ rest)
    (hunder : IsUnder (Path.place out) (Path.place root ++ names)) :
    Path.startsWith (spell names) out = true := by
  have hroot : root ≠ "" := (isDirectory_iff.mp hnames.directory).1.1
  obtain ⟨outNames, rfl⟩ := exists_names_of_parent_not_mem hroot hout hparent
  obtain ⟨behind, -, -, hbehind⟩ := hunder
  rw [Path.place_of_components hout, List.append_assoc, List.append_cancel_left_eq] at hbehind
  refine (h.startsWith_iff hnames hout).mpr ?_
  rw [hbehind, List.map_append]
  exact List.prefix_append _ _

/-- With a step upwards no source file is left out. -/
theorem not_startsWith_of_parent_mem (hnames : IsSource d root names)
    (hout : Path.components out = Path.components root ++ rest) (hparent : .parent ∈ rest) :
    Path.startsWith (spell names) out = false := by
  rw [Bool.eq_false_iff, ne_eq, h.startsWith_iff hnames hout]
  intro hprefix
  simpa using hprefix.subset hparent

end Spells

/-- What is collected from files depends on their texts only. -/
theorem collectFiles_eq_of_readText_eq {files : List String}
    (h : ∀ f ∈ files, d.readText f = d'.readText f) (set : DeclSet) :
    collectFiles d root set files = collectFiles d' root set files := by
  induction files generalizing set with
  | nil => rfl
  | cons file files ih =>
      obtain ⟨hfile, hfiles⟩ := List.forall_mem_cons.mp h
      simp only [collectFiles, hfile, ih hfiles]

theorem AgreesOutside.symm (h : AgreesOutside root out d d') : AgreesOutside root out d' d where
  files l hl := (h.files l hl).symm
  directory := h.directory.symm

/-- Without a step upwards a source file that is not left out is the same on the other disk. -/
theorem AgreesOutside.isSource (hagree : AgreesOutside root out d d') (h : Spells root spell)
    (htree : d.IsTree) (htree' : d'.IsTree)
    (hout : Path.components out = Path.components root ++ rest) (hparent : .parent ∉ rest)
    (hnames : IsSource d root names) (hkept : Path.startsWith (spell names) out = false) :
    IsSource d' root names ∧ d.readText (spell names) = d'.readText (spell names) := by
  have hunder : ¬ IsUnder (Path.place out) (Path.place root ++ names) := fun hunder => by
    rw [h.startsWith_of_isUnder hnames hout hparent hunder] at hkept
    cases hkept
  obtain ⟨content, hcontent⟩ := hnames.file
  have hcontent' := (hagree.files _ hunder).symm.trans hcontent
  have hnames' : IsSource d' root names :=
    ⟨hnames.entries, hagree.directory ▸ hnames.directory, ⟨content, hcontent'⟩, hnames.ending⟩
  refine ⟨hnames', ?_⟩
  rw [readText, readText, h.find_eq htree hnames hcontent, h.find_eq htree' hnames' hcontent']

/-- Without a step upwards the files below the output directory are not seen. -/
theorem isSeparate_of_parent_not_mem (h : Spells root spell)
    (hout : Path.components out = Path.components root ++ rest) (hparent : .parent ∉ rest) :
    IsSeparate root out := by
  intro d d' htree htree' hagree listed o
  obtain ⟨files, hfiles, hordered, hmem⟩ := h.exists_sourceFiles htree
  obtain ⟨files', hfiles', hordered', hmem'⟩ := h.exists_sourceFiles htree'
  have hkept : (files.filter fun f => !Path.startsWith f out) =
      files'.filter fun f => !Path.startsWith f out := by
    refine IsOrdered.eq_of_mem_iff (hordered.filter _) (hordered'.filter _) fun q => ?_
    simp only [List.mem_filter, hmem, hmem', Bool.not_eq_true']
    constructor
    · rintro ⟨⟨names, hnames, rfl⟩, hstarts⟩
      exact ⟨⟨names, (hagree.isSource h htree htree' hout hparent hnames hstarts).1, rfl⟩, hstarts⟩
    · rintro ⟨⟨names, hnames, rfl⟩, hstarts⟩
      exact ⟨⟨names, (hagree.symm.isSource h htree' htree hout hparent hnames hstarts).1, rfl⟩,
        hstarts⟩
  have hread : ∀ f ∈ files.filter fun f => !Path.startsWith f out,
      d.readText f = d'.readText f := by
    intro f hf
    simp only [List.mem_filter, hmem, Bool.not_eq_true'] at hf
    obtain ⟨⟨names, hnames, rfl⟩, hstarts⟩ := hf
    exact (hagree.isSource h htree htree' hout hparent hnames hstarts).2
  have hcollect : collectTree d root out = collectTree d' root out := by
    rw [collectTree, collectTree, hfiles, hfiles']
    show collectFiles d root _ _ = collectFiles d' root _ _
    rw [collectFiles_eq_of_readText_eq hread, hkept]
  rw [generate, generate, tables, tables, hcollect]

/-! ## Steps upwards -/

theorem collect_empty (module : String) (set : DeclSet) :
    Collect.source module "" set = .ok set := by
  have hnone : (Source.parseFile? "").map List.length = some 0 := by decide +kernel
  obtain ⟨is, his, hlength⟩ := Option.map_eq_some_iff.mp hnone
  obtain rfl := List.length_eq_zero_iff.mp hlength
  rw [Collect.source, his]
  rfl

section Scaffolds

variable {dirs : List Location} {last : String}
  (hdirectory : ∀ content,
    Disk.isDirectory (scaffold dirs (Path.place out ++ [last]) content) root = true)

include hdirectory

/-- The only source file of a scaffold is its file. -/
theorem isSource_scaffold_iff {outNames : List String} {stem : String} (hlast : last = stem ++ ".rs")
    (hnames : ∀ name ∈ outNames ++ [last], IsEntryName name)
    (hout : Path.place out = Path.place root ++ outNames) (content : Content) :
    IsSource (scaffold dirs (Path.place out ++ [last]) content) root names ↔
      names = outNames ++ [last] := by
  have hplace : Path.place root ++ (outNames ++ [last]) = Path.place out ++ [last] := by
    rw [hout, List.append_assoc]
  constructor
  · rintro ⟨-, -, ⟨content', hfile⟩, -⟩
    exact List.append_cancel_left ((file?_scaffold_iff.mp hfile).1.trans hplace.symm)
  · rintro rfl
    exact ⟨hnames, hdirectory content, ⟨content, file?_scaffold_iff.mpr ⟨hplace, rfl⟩⟩, stem,
      by rw [List.getLast?_concat, hlast]⟩

/-- Scaffolds with other contents agree outside of the directory of their file. -/
theorem agreesOutside_scaffold (hname : IsEntryName last) (content content' : Content) :
    AgreesOutside root out (scaffold dirs (Path.place out ++ [last]) content)
      (scaffold dirs (Path.place out ++ [last]) content') where
  files l hl := by
    have hother : l ≠ Path.place out ++ [last] := by
      rintro rfl
      exact hl ⟨[last], by simp, List.forall_mem_singleton.mpr hname, rfl⟩
    refine Option.ext fun other => ?_
    rw [file?_scaffold_iff, file?_scaffold_iff]
    simp [hother]
  directory := by rw [hdirectory, hdirectory]

end Scaffolds

/-- There is a disk with one source file, whatever that holds, and it lies below the output
directory. The disks for two contents agree outside. -/
theorem exists_disk (hroot : root ≠ "")
    (hbelow : ∃ names, (∀ name ∈ names, IsEntryName name) ∧
      Path.place out = Path.place root ++ names) :
    ∃ (disk : Content → Disk) (names : List String), (∀ content, (disk content).IsTree ∧
      (disk content).file? (Path.place root ++ names) = some content ∧
      ∀ other, IsSource (disk content) root other ↔ other = names) ∧
      ∀ content content', AgreesOutside root out (disk content) (disk content') := by
  obtain ⟨outNames, houtNames, hout⟩ := hbelow
  let dirs := Path.place out :: Path.place root :: Path.passes root
  obtain ⟨stem, hname, hfresh⟩ :=
    exists_isEntryName_append_not_mem ".rs" (by decide) dirs.flatten
  have hdirs : ∀ k ∈ dirs, Avoids (stem ++ ".rs") k := by
    refine avoids_of_not_mem ?_ hfresh
    simp only [dirs, List.forall_mem_cons]
    exact ⟨Path.isLocation_place out, Path.isLocation_place root,
      fun m hm => Path.isLocation_of_mem_passes hm⟩
  have hdirectory : ∀ content,
      Disk.isDirectory (scaffold dirs (Path.place out ++ [stem ++ ".rs"]) content) root = true :=
    fun _ => isDirectory_scaffold hdirs hroot (List.subset_cons_self _ _)
  have hnames : ∀ name ∈ outNames ++ [stem ++ ".rs"], IsEntryName name := by
    rw [List.forall_mem_append, List.forall_mem_singleton]
    exact ⟨houtNames, hname⟩
  refine ⟨scaffold dirs (Path.place out ++ [stem ++ ".rs"]), outNames ++ [stem ++ ".rs"],
    fun content => ⟨isTree_scaffold hdirs (by simp [dirs]) hname, ?_,
      fun other => isSource_scaffold_iff hdirectory rfl hnames hout content⟩,
    agreesOutside_scaffold hdirectory hname⟩
  rw [file?_scaffold_iff, hout, List.append_assoc]
  exact ⟨rfl, rfl⟩

/-- With a step upwards everything is collected. -/
theorem collectTree_of_parent_mem (h : Spells root spell) (htree : d.IsTree)
    (honly : ∀ other, IsSource d root other ↔ other = names)
    (hout : Path.components out = Path.components root ++ rest) (hparent : .parent ∈ rest) :
    collectTree d root out = collectFiles d root .empty [spell names] := by
  obtain ⟨files, hfiles, hordered, hmem⟩ := h.exists_sourceFiles htree
  have hsingle : files = [spell names] := by
    refine IsOrdered.eq_of_mem_iff hordered (List.pairwise_singleton _ _) fun q => ?_
    simp only [hmem, honly, exists_eq_left, List.mem_singleton]
  have hstarts := h.not_startsWith_of_parent_mem ((honly names).mpr rfl) hout hparent
  rw [collectTree, hfiles, hsingle]
  show collectFiles d root _ _ = _
  rw [List.filter_singleton, hstarts]
  rfl

/-- With a step upwards a file below the output directory that holds no text makes a run
fail that has nothing to do otherwise. -/
theorem parent_not_mem_of_isSeparate (h : Spells root spell)
    (hbelow : ∃ names, (∀ name ∈ names, IsEntryName name) ∧
      Path.place out = Path.place root ++ names)
    (hout : Path.components out = Path.components root ++ rest) (hseparate : IsSeparate root out) :
    .parent ∉ rest := by
  intro hparent
  obtain ⟨disk, names, hdisk, hagree⟩ := exists_disk h.ne_empty hbelow
  have hread : ∀ content, (disk content).find (spell names) = .ok (.file content) := by
    intro content
    obtain ⟨htree, hfile, honly⟩ := hdisk content
    exact h.find_eq htree ((honly names).mpr rfl) hfile
  have hcollect : ∀ content, collectTree (disk content) root out =
      collectFiles (disk content) root .empty [spell names] := fun content =>
    collectTree_of_parent_mem h (hdisk content).1 (hdisk content).2.2 hout hparent
  have hfails : generate (disk (.binary [])) root out [] {} =
      .error (.sources (.unreadable (spell names) .notText)) := by
    have htext : (disk (.binary [])).readText (spell names) = .error .notText := by
      rw [readText, hread]
      rfl
    rw [generate, tables, hcollect, collectFiles, htext]
    rfl
  have hdone : generate (disk (.text "")) root out [] {} = .ok [] := by
    have htext : (disk (.text "")).readText (spell names) = .ok "" := by
      rw [readText, hread]
      rfl
    rw [generate, tables, hcollect, collectFiles, htext]
    simp only [collect_empty]
    rfl
  have hsame := hseparate _ _ (hdisk (.binary [])).1 (hdisk (.text "")).1
    (hagree (.binary []) (.text "")) [] {}
  rw [hfails, hdone] at hsame
  cases hsame

/-- Let the output directory lie below the source directory, with a path that goes on from
that of the source directory. A run does not see what stands below the output directory
exactly if its path goes on without a step upwards. -/
theorem isSeparate_iff (hspells : ∃ spell, Spells root spell)
    (hbelow : ∃ names, (∀ name ∈ names, IsEntryName name) ∧
      Path.place out = Path.place root ++ names)
    (hout : Path.components out = Path.components root ++ rest) :
    IsSeparate root out ↔ .parent ∉ rest := by
  obtain ⟨spell, h⟩ := hspells
  exact ⟨parent_not_mem_of_isSeparate h hbelow hout, isSeparate_of_parent_not_mem h hout⟩

/-- A source directory with an output directory in it. -/
def loft : Disk :=
  ⟨[(["src"], .directory), (["src", "lib.rs"], .file (.text "")), (["src", "gen"], .directory)]⟩

/-- The same with an entity in the output directory. -/
def crowdedLoft : Disk :=
  ⟨(["src", "gen", "a.rs"], .file (.text "#[derive(Entity)] pub struct A \x7b id: i64 \x7d")) ::
    loft.entries⟩

theorem exists_spells_src : ∃ spell, Spells "src" spell :=
  exists_spells (by decide) ⟨by decide, by decide +kernel⟩

theorem exists_spells_srv : ∃ spell, Spells "/srv/src" spell :=
  exists_spells (by decide) ⟨by decide, by decide +kernel⟩

theorem isSeparate_src :
    IsSeparate "/srv/src" "/srv/src/gen" ∧ ¬ IsSeparate "src" "src/../src/gen" := by
  have hgen : Path.components "/srv/src/gen" = Path.components "/srv/src" ++ [.normal "gen"] := by
    decide +kernel
  have hdetour : Path.components "src/../src/gen" =
      Path.components "src" ++ [.parent, .normal "src", .normal "gen"] := by
    decide +kernel
  constructor
  · exact (isSeparate_iff exists_spells_srv ⟨["gen"], by decide +kernel, by decide +kernel⟩
      hgen).mpr (by decide)
  · exact mt (isSeparate_iff exists_spells_src ⟨["gen"], by decide +kernel, by decide +kernel⟩
      hdetour).mp (by decide)

/-- Below an output directory whose path goes on from that of the source directory by a
step upwards and back, an entity is read as one of the sources. -/
theorem read_back :
    (∃ spell, Spells "src" spell) ∧ Path.startsWith "src/../src/gen" "src" = true ∧
      Path.place "src/../src/gen" = ["src", "gen"] ∧ loft.IsTree ∧ crowdedLoft.IsTree ∧
      AgreesOutside "src" "src/../src/gen" loft crowdedLoft ∧
      generate loft "src" "src/../src/gen" [] { crud := false, tests := false } = .ok [] ∧
      generate crowdedLoft "src" "src/../src/gen" [] { crud := false, tests := false } =
        .ok [⟨"src/../src/gen/a/schema.sql", "-- " ++ Code.generatedMark ++
          "\n\nCREATE TABLE a (\n  id BIGINT GENERATED BY DEFAULT AS IDENTITY,\n" ++
          "  PRIMARY KEY (id)\n);\n"⟩] := by
  have hplace : Path.place "src/../src/gen" = ["src", "gen"] := by decide +kernel
  refine ⟨exists_spells_src, by decide +kernel, hplace, isTree_of_entries (by decide +kernel),
    isTree_of_entries (by decide +kernel), ⟨fun l hl => ?_, by decide +kernel⟩,
    eq_ok_of_toOption (by decide +kernel), eq_ok_of_toOption (by decide +kernel)⟩
  have hother : (l == ["src", "gen", "a.rs"]) = false := by
    rw [beq_eq_false_iff_ne]
    rintro rfl
    rw [hplace] at hl
    exact hl ⟨["a.rs"], by decide, by decide, rfl⟩
  simp only [file?, Disk.entry?, crowdedLoft, List.lookup_cons, hother]

end Rowsmith.Command
