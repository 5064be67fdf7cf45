/-
# Regenerating

A run that succeeds leaves a disk on which nothing is left to change: its files
hold their contents, no other file below the output directory carries the mark,
and all files that are neither written nor removed are as they were. This needs
the files below the output directory to be listed, which they are if its path is
plain text (`listsFiles_of_isPlainText`); and the path must not lead through
directories below itself, since a directory goes when the last file in it does,
and with it the paths that lead through it.
-/

import Rowsmith.Proofs.Disk.Listing
import Rowsmith.Proofs.Output.Unmarked

namespace Rowsmith.Output

open Disk Code

/-! ## Listed files -/

/-- Where `out` leads to a directory, the files that match the pattern below `out`
are the files below that directory, spelled as names that go on from `out`. -/
def ListsFiles (out : String) : Prop :=
  ∀ d : Disk, d.IsTree → d.isDirectory out = true →
    ∃ paths, d.glob (patternBelow out) = .ok paths ∧
      (∀ q ∈ paths, d.isFile q = true → Path.IsBelow out q) ∧
      ∀ names content, names ≠ [] → (∀ name ∈ names, IsEntryName name) →
        d.file? (Path.place out ++ names) = some content →
        ∃ q ∈ paths, d.isFile q = true ∧
          Path.components q = Path.components out ++ names.map .normal

theorem isLastName_anyRun : IsLastName "*" [.anyRun] where
  ne_empty := by decide
  slash_not_mem := by decide
  ofText := by decide +kernel
  loose := by decide
  afterDepth position := by simp [Piece.ofChars, Except.map]

theorem takes_anyRun (name : String) : (NamePattern.loose [.anyRun]).takes name = true := by
  have hend : ∀ cs : List Char, [] ∈ Piece.endings cs := by
    intro cs
    induction cs with
    | nil => simp [Piece.endings]
    | cons c cs ih => simp [Piece.endings, ih]
  simp only [NamePattern.takes, Piece.matchAll, List.any_eq_true]
  exact ⟨[], hend _, rfl⟩

/-- Files are listed below a path of plain text that does not start with a step to the
same directory. -/
theorem listsFiles_of_isPlainText {out : String} (hplain : IsPlainText out)
    (hout : IsPlainPath out) : ListsFiles out := by
  intro d htree hdirectory
  obtain ⟨spell, hspelled, hlisting⟩ := exists_glob hplain hout isLastName_anyRun
  obtain ⟨paths, hglob, hlists⟩ := hlisting d htree
  refine ⟨paths, hglob, fun q hq _ => ?_, fun names content hne hnames hfile => ?_⟩
  · obtain ⟨names, hne, hnames, -, rfl⟩ := hlists.sound q hq
    exact ⟨names, hne, hspelled names hnames⟩
  · have hentry := file?_eq_some_iff.mp hfile
    have htaken : names.getLast?.any (NamePattern.loose [.anyRun]).takes = true := by
      cases hlast : names.getLast? with
      | none => exact absurd (List.getLast?_eq_none_iff.mp hlast) hne
      | some name => exact takes_anyRun name
    obtain ⟨hlisted, hfind⟩ := hlists.complete hdirectory names _ hne hnames hentry htaken
    obtain ⟨hreaches, hfound⟩ := find_eq_ok_iff.mp hfind
    exact ⟨spell names, hlisted, isFile_iff.mpr ⟨hreaches, content, hfound⟩,
      hspelled names hnames⟩

/-! ## Reading on -/

/-- The path `out` leads through no directory below the one to which it leads. -/
def IsDirect (out : String) : Prop :=
  ∀ before, before <+: Path.components out → ∀ names, names ≠ [] →
    Path.placeFrom [] before ≠ Path.place out ++ names

/-- Without steps upwards a path leads through directories above only. -/
theorem isDirect_of_parent_not_mem {out : String} (h : .parent ∉ Path.components out) :
    IsDirect out := by
  rintro before ⟨after, hafter⟩ names hnames hplace
  cases before with
  | nil =>
      have hlength := congrArg List.length hplace
      have := List.length_pos_iff.mpr hnames
      rw [List.length_append] at hlength
      simp only [Path.placeFrom, List.foldl_nil, List.length_nil] at hlength
      omega
  | cons first before =>
      have hroot : .root ∉ after := by
        have htail := Path.root_not_mem_tail_components out
        rw [← hafter, List.cons_append, List.tail_cons] at htail
        exact fun hmem => htail (List.mem_append_right _ hmem)
      have hparent : .parent ∉ after := fun hmem => h (hafter ▸ List.mem_append_right _ hmem)
      have hle := Path.length_placeFrom_le hroot hparent (Path.placeFrom [] (first :: before))
      rw [← Path.placeFrom_append, hafter, hplace, Path.place, List.length_append] at hle
      have := List.length_pos_iff.mpr hnames
      omega

/-- Steps of a path below `out` are taken on the way to `out` or below it. -/
theorem mem_passes_of_isBelow {out p : String} {names : List String} {m : Location}
    (hp : Path.components p = Path.components out ++ names.map .normal) (hm : m ∈ Path.passes p) :
    (∃ before, before <+: Path.components out ∧ m = Path.placeFrom [] before) ∨
      ∃ taken rest, names = taken ++ rest ∧ m = Path.place out ++ taken := by
  obtain ⟨before, hbefore, rfl⟩ := Path.exists_prefix_of_mem_passes hm
  have hout : Path.components out <+: Path.components p := hp ▸ List.prefix_append _ _
  rcases List.prefix_or_prefix_of_prefix hbefore hout with hstarts | ⟨steps, rfl⟩
  · exact .inl ⟨before, hstarts, rfl⟩
  · obtain ⟨rest, hrest⟩ := hbefore
    rw [hp, List.append_assoc, List.append_cancel_left_eq] at hrest
    obtain ⟨taken, left, rfl, rfl, -⟩ := List.map_eq_append_iff.mp hrest.symm
    exact .inr ⟨taken, left, rfl, by rw [Path.placeFrom_append, Path.placeFrom_map_normal]; rfl⟩

section

variable {files : List OutputFile} {d d' : Disk} {out : String} {c : PlannedChange}
  {cs : List PlannedChange} {f : OutputFile}

/-- A file that stays can be read on after a directory goes with the last file in it. -/
theorem Cleared.reaches (h : Cleared d c.path d') (hdirect : IsDirect out)
    (hc : Path.IsBelow out c.path) (hf : Path.IsBelow out f.path) (hreaches : d.Reaches f.path)
    {content : Content} (hfile : d.entry? (Path.place f.path) = some (.file content)) :
    d'.Reaches f.path := by
  obtain rfl | ⟨q, hq, hdirectory, hedit⟩ := h
  · exact hreaches
  · refine hedit.reaches hreaches fun hmem => ?_
    exfalso
    obtain ⟨cnames, hcne, hc⟩ := hc
    obtain ⟨names, hne, hf⟩ := hf
    have hplace : Path.place q = Path.place out ++ cnames.dropLast := by
      obtain ⟨before, last, rfl⟩ := (List.eq_nil_or_concat cnames).resolve_left hcne
      rw [List.concat_eq_append] at hc ⊢
      rw [List.map_append, ← List.append_assoc, List.map_singleton] at hc
      rw [List.dropLast_concat]
      exact Path.place_of_components (Path.components_parent? hc hq)
    have hfplace := Path.place_of_components hf
    -- the directory that goes holds the file, so it is not bare
    have hholds : ∃ below, below ≠ [] ∧ Path.place f.path = Path.place q ++ below := by
      rcases mem_passes_of_isBelow hf hmem with
        ⟨before, hbefore, hbplace⟩ | ⟨taken, rest, rfl, htaken⟩
      · have hnil : cnames.dropLast = [] := by
          by_contra hcnames
          exact hdirect before hbefore _ hcnames (hbplace.symm.trans hplace)
        rw [hnil, List.append_nil] at hplace
        exact ⟨names, hne, hplace ▸ hfplace⟩
      · rw [htaken]
        refine ⟨rest, ?_, by rw [hfplace, List.append_assoc]⟩
        rintro rfl
        rw [List.append_nil] at hfplace
        rw [htaken, ← hfplace, hfile] at hdirectory
        cases hdirectory
    obtain ⟨below, hbelow, hplace⟩ := hholds
    have hbare := hedit.bare hdirectory (by simp) below hbelow
    rw [← hplace, hfile] at hbare
    cases hbare

/-- A file of the run that holds its content does so after a change that leaves no other
content there. -/
theorem Made.readText_kept (h : Made files d c d') (hdirect : IsDirect out)
    (hc : Path.IsBelow out c.path) (hf : Path.IsBelow out f.path)
    (houtcome : Path.place c.path = Path.place f.path →
      c.outcome files = some (.text f.content))
    (hread : d.readText f.path = .ok f.content) : d'.readText f.path = .ok f.content := by
  obtain ⟨hreaches, hentry⟩ := readText_eq_ok_iff.mp hread
  have hfile : d'.file? (Path.place f.path) = some (.text f.content) := by
    rw [h.file?_eq]
    by_cases hplace : Path.place c.path = Path.place f.path
    · rw [hplace, Function.update_self, houtcome hplace]
    · rw [Function.update_of_ne (Ne.symm hplace), file?_eq_some_iff, hentry]
  refine readText_eq_ok_iff.mpr ⟨?_, file?_eq_some_iff.mp hfile⟩
  cases h with
  | written g d₁ change found built edit free reaches =>
      refine edit.reaches (built.reaches hreaches) fun hmem => ?_
      exact absurd ((built.reaches hreaches).2 _ hmem) free
  | removed content d₁ change found edit cleared =>
      have hapart : Path.place f.path ≠ Path.place c.path := by
        intro hplace
        have hnone := houtcome hplace.symm
        simp [PlannedChange.outcome, change] at hnone
      have hkept : d₁.Reaches f.path := by
        refine edit.reaches hreaches fun hmem => ?_
        have hdirectory := hreaches.2 _ hmem
        rw [found] at hdirectory
        cases hdirectory
      exact cleared.reaches hdirect hc hf hkept ((edit.entry?_of_ne hapart).trans hentry)

/-- After a file of the run is written it can be read. -/
theorem Made.readText_written (h : Made files d c d') (hne : c.change ≠ .remove)
    (hfind : files.find? (fun f => Path.same f.path c.path) = some f) :
    d'.readText f.path = .ok f.content := by
  cases h with
  | written g d₁ change found built edit free reaches =>
      obtain rfl : g = f := Option.some.inj (found.symm.trans hfind)
      exact readText_eq_ok_iff.mpr ⟨reaches, edit.entry?_self⟩
  | removed content d₁ change found edit cleared => exact absurd change hne

/-- A file of the run holds its content after changes that leave no other content there,
if one of them writes it or if it did so before. -/
theorem MadeAll.readText_eq (h : MadeAll files d cs d') (hdirect : IsDirect out)
    (hcs : ∀ c ∈ cs, Path.IsBelow out c.path) (hf : Path.IsBelow out f.path)
    (houtcome : ∀ c ∈ cs, Path.place c.path = Path.place f.path →
      c.outcome files = some (.text f.content))
    (hsome : (∃ c ∈ cs, c.change ≠ .remove ∧
        files.find? (fun f => Path.same f.path c.path) = some f) ∨
      d.readText f.path = .ok f.content) : d'.readText f.path = .ok f.content := by
  induction h with
  | nil d => exact hsome.resolve_left (by simp)
  | @cons d d₁ d' c cs hmade _ ih =>
      rw [List.forall_mem_cons] at hcs houtcome
      refine ih hcs.2 houtcome.2 ?_
      rw [List.exists_mem_cons_iff] at hsome
      rcases hsome with (⟨hne, hfind⟩ | hlater) | hread
      · exact .inr (hmade.readText_written hne hfind)
      · exact .inl hlater
      · exact .inr (hmade.readText_kept hdirect hcs.1 hf houtcome.1 hread)

end

/-! ## Runs -/

/-- The content stands below the location to which `out` leads, and carries the mark. -/
def IsMarkedBelow (d : Disk) (out : String) (l : Location) (content : Content) : Prop :=
  IsUnder (Path.place out) l ∧ d.file? l = some content ∧ carriesMark content = true

/-- Nothing is marked on a disk whose files all lack the mark. -/
theorem not_isMarkedBelow_of_entries {d : Disk}
    (h : ∀ x ∈ d.entries, ∀ content ∈ x.2.content?, carriesMark content = false) (out : String)
    (l : Location) (content : Content) : ¬ IsMarkedBelow d out l content := by
  rintro ⟨⟨names, hne, -, rfl⟩, hfile, hmark⟩
  have hmem := mem_entries (by simp [hne]) (file?_eq_some_iff.mp hfile)
  rw [h _ hmem content rfl] at hmark
  cases hmark

/-- What a run with the given files needs to bring the disk in line with them. -/
structure Regenerable (d : Disk) (files : List OutputFile) (out : String) : Prop where
  tree : d.IsTree
  listed : ListsFiles out
  direct : IsDirect out
  /-- If `out` leads to no directory then no file is removed, so there must be none to remove. -/
  visible : d.isDirectory out = true ∨ ∀ l content, ¬ IsMarkedBelow d out l content
  below : ∀ f ∈ files, Path.IsBelow out f.path
  distinct : (files.map fun f => Path.components f.path).Nodup

/-- The marked files are found if `out` leads to a directory. -/
theorem exists_markedFiles {d : Disk} {out : String} (htree : d.IsTree) (hlists : ListsFiles out) :
    ∃ marked, markedFiles d out = .ok marked ∧ (∀ q ∈ marked, Path.IsBelow out q) ∧
      (d.isDirectory out = true → ∀ l content, IsMarkedBelow d out l content →
        ∃ q ∈ marked, Path.place q = l) := by
  by_cases hdirectory : d.isDirectory out = true
  · obtain ⟨paths, hglob, hsound, hcomplete⟩ := hlists d htree hdirectory
    refine ⟨paths.filter fun q => d.isFile q && isMarkedFile d q, ?_, fun q hq => ?_, ?_⟩
    · rw [markedFiles, if_pos hdirectory, hglob]
      rfl
    · simp only [List.mem_filter, Bool.and_eq_true] at hq
      exact hsound q hq.1 hq.2.1
    · rintro - l content ⟨⟨names, hne, hnames, rfl⟩, hfile, hmark⟩
      obtain ⟨q, hq, hisFile, hcomponents⟩ := hcomplete names content hne hnames hfile
      have hplace := Path.place_of_components hcomponents
      refine ⟨q, ?_, hplace⟩
      rw [List.mem_filter, hisFile, Bool.true_and, isMarkedFile_iff_carriesMark]
      refine ⟨hq, (isFile_iff.mp hisFile).1, content, ?_, hmark⟩
      rwa [hplace, ← file?_eq_some_iff]
  · refine ⟨[], ?_, by simp, fun h => absurd h hdirectory⟩
    rw [markedFiles, if_neg hdirectory]

namespace Regenerable

variable {d d' : Disk} {files : List OutputFile} {out : String} {p : Plan} {c : PlannedChange}
  {f : OutputFile} {l : Location}

/-- Different files of a run lead to different locations. -/
theorem eq_of_place_eq (h : Regenerable d files out) {g : OutputFile} (hf : f ∈ files)
    (hg : g ∈ files) (hplace : Path.place f.path = Path.place g.path) : f = g := by
  have hsame := (Path.same_iff_place_eq (h.below f hf) (h.below g hg)).mpr hplace
  exact List.inj_on_of_nodup_map h.distinct hf hg (Path.same_iff.mp hsame)

/-- A file of the run is found by its path. -/
theorem find?_eq (h : Regenerable d files out) (hf : f ∈ files) :
    files.find? (fun g => Path.same g.path f.path) = some f := by
  cases hfind : files.find? (fun g => Path.same g.path f.path) with
  | none =>
      have hnone := List.find?_eq_none.mp hfind f hf
      exact absurd (Path.same_iff.mpr rfl) hnone
  | some g =>
      have hsame : Path.same g.path f.path = true := by simpa using List.find?_some hfind
      have hg := List.mem_of_find?_eq_some hfind
      rw [h.eq_of_place_eq hg hf (Path.place_eq_of_same hsame)]

/-- A planned change writes a file of the run where it leads, or removes a marked file below
the output directory where no file of the run leads. -/
theorem change_cases (h : Regenerable d files out) (hplan : plan d files out = .ok p)
    (hc : c ∈ p.changes) :
    (c.change ≠ .remove ∧ ∃ f ∈ files, c.path = f.path ∧
        c.outcome files = some (.text f.content)) ∨
      c.outcome files = none ∧ Path.IsBelow out c.path ∧
        (∃ content, IsMarkedBelow d out (Path.place c.path) content) ∧
        ∀ f ∈ files, Path.place f.path ≠ Path.place c.path := by
  rcases (mem_changes_iff hplan).mp hc with
    ⟨f, hf, hchange⟩ | ⟨hremove, ⟨marked, hmarked, hq⟩, hfresh⟩
  · obtain ⟨hpath, hne, -⟩ := changeFor?_eq_some hchange
    exact .inl ⟨hne, f, hf, hpath, c.outcome_of_ne_remove hne (hpath ▸ h.find?_eq hf)⟩
  · obtain ⟨marked', hmarked', hbelow, -⟩ := exists_markedFiles h.tree h.listed
    obtain rfl := Except.ok.inj (hmarked.symm.trans hmarked')
    have hbelow := hbelow _ hq
    obtain ⟨-, content, hcontent, hmark⟩ :=
      isMarkedFile_iff_carriesMark.mp (mem_markedFiles hmarked hq)
    refine .inr ⟨by simp [PlannedChange.outcome, hremove], hbelow, ⟨content, ?_⟩,
      fun f hf hplace => ?_⟩
    · exact ⟨hbelow.isUnder, file?_eq_some_iff.mpr hcontent, hmark⟩
    · have hsame := (Path.same_iff_place_eq (h.below f hf) hbelow).mpr hplace
      rw [hfresh f hf] at hsame
      cases hsame

theorem isBelow_of_mem_changes (h : Regenerable d files out) (hplan : plan d files out = .ok p)
    (hc : c ∈ p.changes) : Path.IsBelow out c.path := by
  rcases h.change_cases hplan hc with ⟨-, f, hf, hpath, -⟩ | ⟨-, hbelow, -⟩
  · exact hpath ▸ h.below f hf
  · exact hbelow

/-- Whatever changes where a file of the run leads puts its content there. -/
theorem outcome_eq (h : Regenerable d files out) (hplan : plan d files out = .ok p)
    (hf : f ∈ files) (hc : c ∈ p.changes) (hplace : Path.place c.path = Path.place f.path) :
    c.outcome files = some (.text f.content) := by
  rcases h.change_cases hplan hc with ⟨-, g, hg, hpath, houtcome⟩ | ⟨-, -, -, hfresh⟩
  · rw [houtcome, h.eq_of_place_eq hg hf (hpath ▸ hplace)]
  · exact absurd hplace.symm (hfresh f hf)

/-- The files of the run hold their contents after all changes. -/
theorem readText_eq (h : Regenerable d files out) (hplan : plan d files out = .ok p)
    (hmade : MadeAll files d p.changes d') (hf : f ∈ files) :
    d'.readText f.path = .ok f.content := by
  refine hmade.readText_eq h.direct (fun c hc => h.isBelow_of_mem_changes hplan hc) (h.below f hf)
    (fun c hc hplace => h.outcome_eq hplan hf hc hplace) ?_
  cases hchange : changeFor? d f with
  | none => exact .inr (changeFor?_eq_none_iff.mp hchange)
  | some c =>
      obtain ⟨hpath, hne, -⟩ := changeFor?_eq_some hchange
      exact .inl ⟨c, (mem_changes_iff hplan).mpr (.inl ⟨f, hf, hchange⟩), hne,
        hpath ▸ h.find?_eq hf⟩

/-- Where no file of the run leads, a marked file below the output directory is gone after
all changes, and any other file is as it was. -/
theorem file?_eq_of_fresh (h : Regenerable d files out) (hplan : plan d files out = .ok p)
    (hmade : MadeAll files d p.changes d') (hfresh : ∀ f ∈ files, Path.place f.path ≠ l) :
    (∀ content, IsMarkedBelow d out l content → d'.file? l = none) ∧
      ((∀ content, ¬ IsMarkedBelow d out l content) → d'.file? l = d.file? l) := by
  have houtcome : ∀ c ∈ p.changes, Path.place c.path = l →
      c.outcome files = none ∧ ∃ content, IsMarkedBelow d out l content := by
    intro c hc hl
    rcases h.change_cases hplan hc with ⟨-, g, hg, hpath, -⟩ | ⟨hnone, -, hstale, -⟩
    · exact absurd (hpath ▸ hl) (hfresh g hg)
    · exact ⟨hnone, hl ▸ hstale⟩
  constructor
  · intro content hstale
    obtain ⟨marked, hmarked, hbelow, hcomplete⟩ := exists_markedFiles h.tree h.listed
    have hdirectory := h.visible.resolve_right fun hnone => hnone l content hstale
    obtain ⟨q, hq, hl⟩ := hcomplete hdirectory l content hstale
    have hstays : ∀ f ∈ files, Path.same f.path q = false := by
      intro f hf
      rw [Bool.eq_false_iff]
      exact fun hsame => hfresh f hf ((Path.place_eq_of_same hsame).trans hl)
    have hremove : ⟨.remove, q⟩ ∈ p.changes :=
      (mem_changes_iff hplan).mpr (.inr ⟨rfl, ⟨marked, hmarked, hq⟩, hstays⟩)
    exact hmade.file?_eq (fun c hc hcl => (houtcome c hc hcl).1) (.inl ⟨_, hremove, hl⟩)
  · intro hkept
    refine hmade.file?_eq_self fun c hc hl => ?_
    obtain ⟨-, content, hstale⟩ := houtcome c hc hl
    exact hkept content hstale

/-- After all changes only files of the run carry the mark below the output directory. -/
theorem exists_of_isMarkedBelow (h : Regenerable d files out) (hplan : plan d files out = .ok p)
    (hmade : MadeAll files d p.changes d') {content : Content}
    (hstale : IsMarkedBelow d' out l content) : ∃ f ∈ files, Path.place f.path = l := by
  by_contra hfresh
  have hfresh : ∀ f ∈ files, Path.place f.path ≠ l := fun f hf hl => hfresh ⟨f, hf, hl⟩
  obtain ⟨hgone, hkept⟩ := h.file?_eq_of_fresh hplan hmade hfresh
  obtain ⟨hbelow, hfile, hmark⟩ := hstale
  by_cases hbefore : ∃ content, IsMarkedBelow d out l content
  · obtain ⟨old, hold⟩ := hbefore
    rw [hgone old hold] at hfile
    cases hfile
  · rw [hkept fun old hold => hbefore ⟨old, hold⟩] at hfile
    exact hbefore ⟨content, hbelow, hfile, hmark⟩

/-- After all changes nothing is left to change. -/
theorem plan_eq (h : Regenerable d files out) (hplan : plan d files out = .ok p)
    (hmade : MadeAll files d p.changes d') : plan d' files out = .ok ⟨[], files.length⟩ := by
  have htree := hmade.isTree h.tree
  obtain ⟨marked, hmarked, hbelow, -⟩ := exists_markedFiles htree h.listed
  have hwritten : files.filterMap (changeFor? d') = [] := by
    rw [List.filterMap_eq_nil_iff]
    exact fun f hf => changeFor?_eq_none_iff.mpr (h.readText_eq hplan hmade hf)
  have hstale : (marked.filter fun q => !files.any fun f => Path.same f.path q) = [] := by
    rw [List.filter_eq_nil_iff]
    intro q hq
    obtain ⟨-, content, hcontent, hmark⟩ :=
      isMarkedFile_iff_carriesMark.mp (mem_markedFiles hmarked hq)
    have hqbelow := hbelow q hq
    obtain ⟨f, hf, hplace⟩ := h.exists_of_isMarkedBelow hplan hmade
      ⟨hqbelow.isUnder, file?_eq_some_iff.mpr hcontent, hmark⟩
    have hsame := (Path.same_iff_place_eq (h.below f hf) hqbelow).mpr hplace
    simp only [Bool.not_eq_true', Bool.not_eq_false, List.any_eq_true]
    exact ⟨f, hf, hsame⟩
  exact plan_eq_ok_iff.mpr ⟨marked, hmarked, by simp [hwritten, hstale]⟩

end Regenerable

end Rowsmith.Output
