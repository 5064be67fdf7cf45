/-
# What lies outside of the output directory

A run looks for files to remove by a pattern, and the path of the output directory
is a part of that pattern as it is written. `isConfined_iff` says for which paths the
removals of a run are those below the directory, no others and none missed: the path
has to be plain text. Each name that is not is matched by other names, or not by
itself, and on some disk the wrong files are found. There must also be no gap in the
path after steps to the same directory at its start, where a pattern finds nothing.
-/

import Rowsmith.Proofs.Disk.Openness
import Rowsmith.Proofs.Disk.Scaffold
import Rowsmith.Proofs.Output.Regeneration

namespace Rowsmith.Output

open Disk Code

/-- The path `p` goes on from `out` by names. Steps to the same directory count for nothing. -/
def LiesBelow (out p : String) : Prop :=
  Path.isAbsolute p = Path.isAbsolute out ∧
    ∃ names : List String, names ≠ [] ∧ stepsOf p = stepsOf out ++ names.map .normal

/-- The plan stays below `out`, and removes each marked file there that the run does not
produce. -/
structure Confined (d : Disk) (files : List OutputFile) (out : String) (p : Plan) : Prop where
  within : ∀ c ∈ p.changes, LiesBelow out c.path
  removes : ∀ l content, IsMarkedBelow d out l content → (∀ f ∈ files, Path.place f.path ≠ l) →
    ∃ c ∈ p.changes, c.change = .remove ∧ Path.place c.path = l

/-- Every run that writes below the directory `out` is planned, and its plan stays there. -/
def IsConfined (out : String) : Prop :=
  ∀ (d : Disk) (files : List OutputFile), d.IsTree → d.isDirectory out = true →
    (∀ f ∈ files, LiesBelow out f.path) →
      ∃ p, plan d files out = .ok p ∧ Confined d files out p

/-- In the working directory the path has an empty part behind steps to the same directory at its
start, and goes on, as `.//out` does. -/
def HasGap (out : String) : Prop :=
  Path.isAbsolute out = false ∧ IsLost (Path.parts out).dropLast

instance (out : String) : Decidable (HasGap out) :=
  inferInstanceAs (Decidable (_ ∧ IsLost _))

/-! ## The pattern below a directory -/

section

variable {d : Disk} {out : String}

/-- A path has a gap if its row gets lost. -/
theorem isLost_rowOf_iff (hout : out ≠ "") (hrelative : Path.isAbsolute out = false) :
    IsLost (rowOf out) ↔ HasGap out := by
  have hparts := parts_eq hout
  rw [hrelative, if_neg Bool.false_ne_true, List.nil_append] at hparts
  rw [HasGap, and_iff_right hrelative, hparts]
  by_cases hslash : out.endsWith "/" = true
  · rw [if_pos hslash, List.dropLast_concat]
  · rw [if_neg hslash, List.append_nil] at hparts ⊢
    obtain ⟨front, last, hrow⟩ :=
      (List.eq_nil_or_concat (rowOf out)).resolve_left (hparts ▸ Path.parts_ne_nil out)
    have hlast := Path.getLast?_parts_ne_empty hout (by simpa using hslash)
    rw [List.concat_eq_append] at hrow
    rw [hparts, hrow, List.getLast?_concat, ne_eq, Option.some.injEq] at hlast
    rw [hrow, List.dropLast_concat]
    exact isLost_append_cons hlast fun _ => rfl

theorem isHere_base_iff : IsHere (base out) ↔ Path.isAbsolute out = false := by
  rw [IsHere, isAbsolute_base, stepsOf_base, and_iff_left rfl]

/-- The marked files are those among the paths that the patterns find. -/
theorem markedFiles_below_iff (hout : out ≠ "") (hdirectory : d.isDirectory out = true)
    {marked : List String} :
    markedFiles d out = .ok marked ↔ ∃ patterns, patternOf (patternBelow out) = .ok patterns ∧
      marked = (d.expand patterns (base out)).filter fun q => d.isFile q && isMarkedFile d q := by
  rw [markedFiles, if_pos hdirectory, patternBelow, glob_below_eq hout isLastName_anyRun]
  cases patternOf (Path.join (Path.join out "**") "*") with
  | error e => simp [Except.map]
  | ok patterns => simp [Except.map, eq_comm]

/-- What plain patterns find lies below the directory. -/
theorem liesBelow_of_mem_expand (htree : d.IsTree) (hout : out ≠ "")
    (hdirectory : d.isDirectory out = true) {q : String}
    (hq : q ∈ d.expand ((rowOf out).map .plain ++ [.anyDepth, .loose [.anyRun]]) (base out)) :
    LiesBelow out q := by
  have hslashes : ∀ name, NamePattern.plain name ∈
      (rowOf out).map .plain ++ [.anyDepth, .loose [.anyRun]] → '/' ∉ name.toList := by
    intro name hname
    have hpart : name ∈ rowOf out := by simpa using hname
    exact slash_not_mem_of_mem_rowOf hout hpart
  have hreaches := reaches_base out ((isDirectory_iff_rowOf hout).mp hdirectory).1
  obtain ⟨row, htakes, hleads⟩ := exists_leads_of_mem_expand htree (by simp) hslashes hreaches hq
  obtain ⟨names, rfl, hbelow⟩ := takes_plain_iff.mp htakes
  obtain ⟨front, last, hnames, hnamed, -⟩ := takes_below_iff.mp hbelow
  refine ⟨hleads.absolute.trans (isAbsolute_base out), names, by simp [hnames], ?_⟩
  rw [hleads.steps, stepsOf_base, List.nil_append, List.filterMap_append,
    filterMap_ofPart?_names hnamed, ← stepsOf_eq hout]

/-- Plain patterns find what is below the directory, unless its path has a gap. -/
theorem exists_mem_expand_plain (htree : d.IsTree) (hout : out ≠ "")
    (hdirectory : d.isDirectory out = true) (hgap : ¬HasGap out) {names : List String} {e : Entry}
    (hne : names ≠ []) (hnamed : ∀ name ∈ names, IsEntryName name)
    (hentry : d.entry? (Path.place out ++ names) = some e) :
    ∃ q ∈ d.expand ((rowOf out).map .plain ++ [.anyDepth, .loose [.anyRun]]) (base out),
      d.Reaches q ∧ Path.place q = Path.place out ++ names := by
  obtain ⟨hstart, hpasses, -⟩ := (isDirectory_iff_rowOf hout).mp hdirectory
  have htakes : Takes ((rowOf out).map .plain ++ [.anyDepth, .loose [.anyRun]])
      (rowOf out ++ names) := by
    obtain ⟨front, last, rfl⟩ := (List.eq_nil_or_concat names).resolve_left hne
    rw [List.concat_eq_append] at *
    exact takes_plain_iff.mpr
      ⟨_, rfl, takes_below_iff.mpr ⟨front, last, rfl, hnamed, takes_anyRun last⟩⟩
  have hwalk : Path.walk (Path.place (base out)) (rowOf out ++ names) =
      Path.place out ++ names := by
    rw [place_base, Path.walk_append, walk_rowOf hout, walk_names hnamed]
  have hfollows : Follows d (base out) (rowOf out ++ names) := by
    refine ⟨fun part hpart => ?_, fun m hm => ?_, fun hhere hlost => hgap ?_⟩
    · rcases List.mem_append.mp hpart with hpart | hpart
      · exact slash_not_mem_of_mem_rowOf hout hpart
      · exact (hnamed part hpart).2.2.2
    · rw [place_base, Path.passesFrom_append, walk_rowOf hout, List.mem_append] at hm
      exact hm.elim (hpasses m) (htree.directory_of_mem_passesFrom hnamed hentry)
    · obtain ⟨first, rest, hnames⟩ := List.exists_cons_of_ne_nil hne
      have hfirst : IsEntryName first := hnamed first (hnames ▸ List.mem_cons_self)
      rw [hnames, isLost_append_cons hfirst.1 fun hdot => absurd hdot hfirst.2.1] at hlost
      exact (isLost_rowOf_iff hout (isHere_base_iff.mp hhere)).mp hlost
  obtain ⟨q, hq, hreaches, hleads⟩ := exists_mem_expand htree htakes (reaches_base out hstart)
    hfollows (hwalk ▸ hentry)
  exact ⟨q, hq, hreaches, hleads.place_eq.trans hwalk⟩

end

/-! ## Directories whose path is plain text -/

/-- The plan of a run stays below a directory whose path is plain text without a gap. -/
theorem isConfined_of_isPlainText {out : String} (hplain : IsPlainText out)
    (hgap : ¬HasGap out) : IsConfined out := by
  intro d files htree hdirectory hfiles
  have hout : out ≠ "" := (isDirectory_iff.mp hdirectory).1.1
  have hpatterns := patternOf_below hplain hout isLastName_anyRun
  have hmarked := (markedFiles_below_iff hout hdirectory).mpr ⟨_, hpatterns, rfl⟩
  obtain ⟨p, hplan⟩ : ∃ p, plan d files out = .ok p :=
    ⟨_, plan_eq_ok_iff.mpr ⟨_, hmarked, rfl⟩⟩
  refine ⟨p, hplan, fun c hc => ?_, ?_⟩
  · rcases (mem_changes_iff hplan).mp hc with ⟨f, hf, hchange⟩ | ⟨-, ⟨paths, hpaths, hc⟩, -⟩
    · rw [(changeFor?_eq_some hchange).1]
      exact hfiles f hf
    · obtain rfl := Except.ok.inj (hmarked.symm.trans hpaths)
      exact liesBelow_of_mem_expand htree hout hdirectory (List.mem_filter.mp hc).1
  · rintro l content ⟨⟨names, hne, hnamed, rfl⟩, hfile, hmark⟩ hother
    have hentry := file?_eq_some_iff.mp hfile
    obtain ⟨q, hq, hreaches, hplace⟩ :=
      exists_mem_expand_plain htree hout hdirectory hgap hne hnamed hentry
    rw [← hplace] at hentry
    have hstale : ∀ f ∈ files, Path.same f.path q = false := by
      intro f hf
      rw [Bool.eq_false_iff]
      exact fun hsame => hother f hf ((Path.place_eq_of_same hsame).trans hplace)
    refine ⟨⟨.remove, q⟩, (mem_changes_iff hplan).mpr (.inr ⟨rfl, ⟨_, hmarked, ?_⟩, hstale⟩), rfl,
      hplace⟩
    rw [List.mem_filter, isFile_iff.mpr ⟨hreaches, content, hentry⟩,
      isMarkedFile_iff_carriesMark.mpr ⟨hreaches, content, hentry, hmark⟩]
    exact ⟨hq, rfl⟩

/-! ## Directories whose path is not -/

/-- A file with the mark. -/
def markedContent : Content :=
  .text (header ++ "\n")

theorem carriesMark_markedContent : carriesMark markedContent = true := by
  decide +kernel

section

variable {out last : String} {patterns : List NamePattern}

/-- The names of the pattern are read one by one. -/
theorem exists_of_patternOf (hout : out ≠ "")
    (hpatterns : patternOf (patternBelow out) = .ok patterns) :
    ∃ front, List.Forall₂
        (fun part pattern => (Piece.ofText part).map NamePattern.ofPieces = .ok pattern)
        (rowOf out) front ∧ patterns = front ++ [.anyDepth, .loose [.anyRun]] :=
  exists_of_patternOf_below hout isLastName_anyRun hpatterns

/-- What is found below the directory is found by a row. -/
theorem exists_leads {d : Disk} (htree : d.IsTree) (hout : out ≠ "")
    (hreaches : d.Reaches (base out)) (hpatterns : patternOf (patternBelow out) = .ok patterns)
    {q : String} (hq : q ∈ d.expand patterns (base out)) :
    ∃ row, Takes patterns row ∧ Leads d (base out) q row := by
  obtain ⟨front, hfront, rfl⟩ := exists_of_patternOf hout hpatterns
  apply exists_leads_of_mem_expand htree (by simp) _ hreaches hq
  intro name hname
  have hname : .plain name ∈ front := by simpa using hname
  obtain ⟨part, hpart, hread⟩ := exists_of_mem_mapM (mapM_eq_ok_iff.mpr hfront) hname
  rw [(isPlainText_of_plain hread).2]
  exact slash_not_mem_of_mem_rowOf hout hpart

theorem exists_last (hout : out ≠ "") (hpatterns : patternOf (patternBelow out) = .ok patterns)
    {row : List String} (htakes : Takes patterns row) :
    ∃ front name, row = front ++ [name] ∧ IsEntryName name := by
  obtain ⟨front, -, rfl⟩ := exists_of_patternOf hout hpatterns
  exact htakes.exists_last (List.suffix_append _ _)

/-- The directories that lead to `out` avoid a name that is new to its path. -/
theorem avoids_directories (hout : out ≠ "") (hlast : IsEntryName last)
    (hfresh : last ∉ rowOf out) :
    ∀ k ∈ start out :: Path.place out :: Path.passesFrom (start out) (rowOf out),
      Avoids last k := by
  have hstart := avoids_start out hlast
  have hpasses := hstart.passes hlast (fun _ => slash_not_mem_of_mem_rowOf hout) hfresh
  rw [walk_rowOf hout] at hpasses
  exact List.forall_mem_cons.mpr ⟨hstart, hpasses⟩

/-- On a scaffold with these directories there is the directory `out`. -/
theorem isDirectory_scaffold_rowOf (hout : out ≠ "") {dirs : List Location} {l : Location}
    {content : Content} (hdirs : ∀ k ∈ dirs, Avoids last k)
    (hsubset : start out :: Path.place out :: Path.passesFrom (start out) (rowOf out) ⊆ dirs) :
    (scaffold dirs (l ++ [last]) content).isDirectory out = true := by
  have hdirectory : ∀ k ∈ start out :: Path.place out :: Path.passesFrom (start out) (rowOf out),
      Disk.entry? (scaffold dirs (l ++ [last]) content) k = some .directory := fun k hk =>
    entry?_scaffold_directory hdirs (hsubset hk) (List.prefix_refl k)
  rw [List.forall_mem_cons, List.forall_mem_cons] at hdirectory
  exact (isDirectory_iff_rowOf hout).mpr ⟨hdirectory.1, hdirectory.2.2, hdirectory.2.1⟩

/-- A step that stands for a name is spelled by it. -/
theorem eq_of_ofPart?_eq_normal {part name : String}
    (h : Path.ofPart? part = some (.normal name)) : part = name := by
  unfold Path.ofPart? at h
  split at h
  · cases h
  · cases h
  · cases h
  · exact Component.normal.inj (Option.some.inj h)

/-- A file below the directory is found, so there is a row that leads to it. -/
theorem exists_takes_of_isConfined (hconfined : IsConfined out) (hout : out ≠ "")
    (hlast : IsEntryName last) (hfresh : last ∉ rowOf out) :
    ∃ patterns front, patternOf (patternBelow out) = .ok patterns ∧
      Takes patterns (front ++ [last]) ∧ IsPassable (base out) last front ∧
      front.filterMap Path.ofPart? = stepsOf out := by
  have hdirs := avoids_directories hout hlast hfresh
  let d := scaffold (start out :: Path.place out :: Path.passesFrom (start out) (rowOf out))
    (Path.place out ++ [last]) markedContent
  have htree : d.IsTree := isTree_scaffold hdirs (by simp) hlast
  have hdirectory : d.isDirectory out = true :=
    isDirectory_scaffold_rowOf hout hdirs (List.Subset.refl _)
  have hunder : IsUnder (Path.place out) (Path.place out ++ [last]) :=
    ⟨[last], by simp, List.forall_mem_singleton.mpr hlast, rfl⟩
  have hmarked : IsMarkedBelow d out (Path.place out ++ [last]) markedContent :=
    ⟨hunder, file?_eq_some_iff.mpr entry?_scaffold_file, carriesMark_markedContent⟩
  obtain ⟨p, hplan, hstays⟩ := hconfined d [] htree hdirectory (by simp)
  obtain ⟨c, hc, -, hplace⟩ := hstays.removes _ _ hmarked (by simp)
  obtain ⟨habsolute, names, -, hsteps⟩ := hstays.within c hc
  obtain ⟨marked, hmarked, hfound⟩ :
      ∃ marked, markedFiles d out = .ok marked ∧ c.path ∈ marked := by
    rcases (mem_changes_iff hplan).mp hc with ⟨f, hf, -⟩ | ⟨-, hstale, -⟩
    · cases hf
    · exact hstale
  obtain ⟨patterns, hpatterns, rfl⟩ := (markedFiles_below_iff hout hdirectory).mp hmarked
  have hreaches := reaches_base out ((isDirectory_iff_rowOf hout).mp hdirectory).1
  obtain ⟨row, htakes, hleads⟩ :=
    exists_leads htree hout hreaches hpatterns (List.mem_filter.mp hfound).1
  obtain ⟨front, last', rfl, hlast'⟩ := exists_last hout hpatterns htakes
  have hnames : Path.place out ++ names = Path.place out ++ [last] := by
    rw [← hplace, place_eq c.path, hsteps, Path.placeFrom_append,
      start_eq_of_isAbsolute habsolute, ← place_eq, Path.placeFrom_map_normal]
  obtain ⟨hfront, hend⟩ : front.filterMap Path.ofPart? = stepsOf out ∧ last' = last := by
    have hrow := hleads.steps
    rw [hsteps, List.append_cancel_left hnames, stepsOf_base, List.nil_append,
      List.filterMap_append] at hrow
    simp only [List.filterMap_cons, Path.ofPart?_of_isEntryName hlast', List.filterMap_nil,
      List.map_cons, List.map_nil] at hrow
    obtain ⟨hfront, hend⟩ := List.append_inj' hrow rfl
    exact ⟨hfront.symm, by simpa using hend.symm⟩
  subst hend
  refine ⟨patterns, front, hpatterns, htakes, ⟨?_, fun hmem => hfresh ?_, fun hhere => ?_⟩, hfront⟩
  · exact fun part hpart => hleads.slashes part (List.mem_append_left _ hpart)
  · have hstep : Component.normal last' ∈ front.filterMap Path.ofPart? :=
      List.mem_filterMap.mpr ⟨last', hmem, Path.ofPart?_of_isEntryName hlast'⟩
    rw [hfront, stepsOf_eq hout] at hstep
    obtain ⟨part, hpart, hname⟩ := List.mem_filterMap.mp hstep
    rwa [← eq_of_ofPart?_eq_normal hname]
  · rw [← isLost_append_cons hlast'.1 fun _ => rfl]
    exact hleads.kept hhere

/-- Every row that is taken and that can be followed leads below the directory. -/
theorem exists_names_of_takes (hconfined : IsConfined out) (hout : out ≠ "")
    (hlast : IsEntryName last) (hfresh : last ∉ rowOf out)
    (hpatterns : patternOf (patternBelow out) = .ok patterns) {front : List String}
    (htakes : Takes patterns (front ++ [last])) (hpassable : IsPassable (base out) last front) :
    ∃ names : List String,
      (front ++ [last]).filterMap Path.ofPart? = stepsOf out ++ names.map .normal := by
  let dirs := start out :: Path.place out :: Path.passesFrom (start out) (rowOf out) ++
    Path.walk (start out) front :: Path.passesFrom (start out) front
  have hdirs : ∀ k ∈ dirs, Avoids last k := by
    rw [List.forall_mem_append]
    exact ⟨avoids_directories hout hlast hfresh,
      (avoids_start out hlast).passes hlast hpassable.slashes hpassable.fresh⟩
  have hpasses : Path.passesFrom (Path.place (base out)) (front ++ [last]) ⊆ dirs := by
    have hlater : Path.passesFrom (Path.place (base out)) (front ++ [last]) ⊆
        Path.walk (start out) front :: Path.passesFrom (start out) front := by
      rw [place_base, Path.passesFrom_append]
      simp [Path.passesFrom]
    exact List.Subset.trans hlater (List.subset_append_right _ _)
  let d := scaffold dirs (Path.walk (start out) front ++ [last]) markedContent
  have htree : d.IsTree := isTree_scaffold hdirs (by simp [dirs]) hlast
  have hdirectory : d.isDirectory out = true :=
    isDirectory_scaffold_rowOf hout hdirs (List.subset_append_left _ _)
  have hreaches := reaches_base out ((isDirectory_iff_rowOf hout).mp hdirectory).1
  have hwalk : Path.walk (Path.place (base out)) (front ++ [last]) =
      Path.walk (start out) front ++ [last] := by
    rw [place_base, Path.walk_append, walk_names (List.forall_mem_singleton.mpr hlast)]
  have hentry : d.entry? (Path.walk (Path.place (base out)) (front ++ [last])) =
      some (.file markedContent) := by
    rw [hwalk]
    exact entry?_scaffold_file
  obtain ⟨q, hq, hqreaches, hleads⟩ := exists_mem_expand htree htakes hreaches
    (hpassable.follows hlast hdirs hpasses) hentry
  obtain ⟨p, hplan, hstays⟩ := hconfined d [] htree hdirectory (by simp)
  have hmarked := (markedFiles_below_iff hout hdirectory).mpr ⟨patterns, hpatterns, rfl⟩
  have hchange : ⟨.remove, q⟩ ∈ p.changes := by
    refine (mem_changes_iff hplan).mpr (.inr ⟨rfl, ⟨_, hmarked, ?_⟩, by simp⟩)
    rw [← hleads.place_eq] at hentry
    rw [List.mem_filter, isFile_iff.mpr ⟨hqreaches, _, hentry⟩,
      isMarkedFile_iff_carriesMark.mpr ⟨hqreaches, _, hentry, carriesMark_markedContent⟩]
    exact ⟨hq, rfl⟩
  obtain ⟨-, names, -, hsteps⟩ := hstays.within _ hchange
  refine ⟨names, ?_⟩
  rw [← hsteps, hleads.steps, stepsOf_base]
  rfl

/-- A path that is no plain text has a first name that is none. -/
theorem exists_special_part (hout : out ≠ "") (hspecial : ¬IsPlainText out) :
    ∃ pre part post, rowOf out = pre ++ part :: post ∧ (∀ q ∈ pre, IsPlainText q) ∧
      ¬IsPlainText part := by
  obtain ⟨c, hc, hchar⟩ := exists_special hspecial
  have hslash : c ≠ '/' := by
    rintro rfl
    revert hchar
    decide
  obtain ⟨part, hpart, hmem⟩ := Path.exists_mem_parts hc hslash
  have hrow : part ∈ rowOf out := by
    have hne : part ≠ "" := by
      rintro rfl
      simp at hmem
    rw [parts_eq hout] at hpart
    split_ifs at hpart <;> simpa [hne] using hpart
  have hpartial : ¬IsPlainText part := by
    intro hplain
    obtain ⟨hone, hrun, hclass⟩ := hplain c hmem
    rcases hchar with hchar | hchar | hchar
    · exact hone hchar
    · exact hrun hchar
    · exact hclass hchar
  have hfind : ((rowOf out).find? fun part => !decide (IsPlainText part)).isSome = true := by
    rw [List.find?_isSome]
    exact ⟨part, hrow, by simpa using hpartial⟩
  obtain ⟨first, hfirst⟩ := Option.isSome_iff_exists.mp hfind
  obtain ⟨hspecial, pre, post, hparts, hpre⟩ := List.find?_eq_some_iff_append.mp hfirst
  exact ⟨pre, first, post, hparts, fun q hq => by simpa using hpre q hq, by simpa using hspecial⟩

/-- Names in front of which all are plain text are read after them. -/
theorem exists_of_forall₂_plain {pre post : List String} {part : String}
    {front : List NamePattern} (hpre : ∀ q ∈ pre, IsPlainText q)
    (h : List.Forall₂
      (fun part pattern => (Piece.ofText part).map NamePattern.ofPieces = .ok pattern)
      (pre ++ part :: post) front) :
    ∃ pattern back, front = pre.map .plain ++ pattern :: back ∧
      (Piece.ofText part).map NamePattern.ofPieces = .ok pattern := by
  induction pre generalizing front with
  | nil =>
      obtain ⟨pattern, back, hread, -, rfl⟩ := List.forall₂_cons_left_iff.mp h
      exact ⟨pattern, back, rfl, hread⟩
  | cons first pre ih =>
      rw [List.forall_mem_cons] at hpre
      obtain ⟨firstPattern, rest, hfirst, hrest, rfl⟩ := List.forall₂_cons_left_iff.mp h
      obtain ⟨pattern, back, rfl, hread⟩ := ih hpre.2 hrest
      rw [Piece.ofText_of_isPlainText hpre.1, Except.map,
        NamePattern.ofPieces_map_exactly] at hfirst
      obtain rfl := Except.ok.inj hfirst
      exact ⟨pattern, back, rfl, hread⟩

/-- Behind a single step to a directory a row goes on to the name of the file. -/
theorem exists_eq_concat_of_steps {steps pre instead behind : List String} {part : String}
    {post : List Component} (hrow : steps ++ [last] = pre ++ (instead ++ behind))
    (hlength : instead.length ≤ 1) (hafter : (instead ++ behind).filterMap Path.ofPart? =
      .normal part :: (post ++ [.normal last])) : ∃ between, behind = between ++ [last] := by
  rcases List.eq_nil_or_concat behind with rfl | ⟨between, name, rfl⟩
  · -- a single step is not followed by the name of the file
    have hle := List.length_filterMap_le Path.ofPart? (instead ++ [])
    rw [hafter] at hle
    simp only [List.append_nil, List.length_cons, List.length_append] at hle
    omega
  · rw [List.concat_eq_append, ← List.append_assoc, ← List.append_assoc] at hrow
    obtain ⟨-, hend⟩ := List.append_inj' hrow rfl
    exact ⟨between, by rw [List.concat_eq_append, hend]⟩

/-- From a row that leads to a file below the directory a detour at the first name that is no
plain text leads to a file elsewhere. -/
theorem exists_detour (hout : out ≠ "") (hspecial : ¬IsPlainText out)
    (hpatterns : patternOf (patternBelow out) = .ok patterns) (hlast : IsEntryName last)
    {steps : List String} (htakes : Takes patterns (steps ++ [last]))
    (hpassable : IsPassable (base out) last steps)
    (hsteps : steps.filterMap Path.ofPart? = stepsOf out) :
    ∃ others, Takes patterns (others ++ [last]) ∧ IsPassable (base out) last others ∧
      ∀ names : List String,
        (others ++ [last]).filterMap Path.ofPart? ≠ stepsOf out ++ names.map .normal := by
  obtain ⟨pre, part, post, hparts, hpre, hpart⟩ := exists_special_part hout hspecial
  have hslash : '/' ∉ part.toList := slash_not_mem_of_mem_rowOf hout (by simp [hparts])
  have hnamed : IsEntryName part := isEntryName_of_not_isPlainText hslash hpart
  have hstepsOf : stepsOf out =
      pre.filterMap Path.ofPart? ++ .normal part :: post.filterMap Path.ofPart? := by
    rw [stepsOf_eq hout, hparts, List.filterMap_append, List.filterMap_cons,
      Path.ofPart?_of_isEntryName hnamed]
  obtain ⟨front, hfront, rfl⟩ := exists_of_patternOf hout hpatterns
  rw [hparts] at hfront
  obtain ⟨pattern, back, rfl, hread⟩ := exists_of_forall₂_plain hpre hfront
  rw [List.append_assoc, List.cons_append] at htakes ⊢
  obtain ⟨rest, hrow, hrest⟩ := takes_plain_iff.mp htakes
  have hafter : rest.filterMap Path.ofPart? =
      .normal part :: (post.filterMap Path.ofPart? ++ [.normal last]) := by
    have hall := congrArg (List.filterMap Path.ofPart?) hrow
    rw [List.filterMap_append, List.filterMap_append, hsteps, hstepsOf, List.append_assoc,
      List.append_cancel_left_eq] at hall
    simpa [Path.ofPart?_of_isEntryName hlast] using hall.symm
  obtain ⟨instead, name, behind, rfl, hlength, hname, hother, hfresh, hdetour⟩ :=
    hrest.exists_detour hread hpart hslash hafter last
  obtain ⟨between, rfl⟩ := exists_eq_concat_of_steps hrow hlength hafter
  have hothers : pre ++ name :: between ++ [last] = pre ++ name :: (between ++ [last]) := by simp
  refine ⟨pre ++ name :: between, ?_, ?_, fun names hnames => ?_⟩
  · rw [hothers]
    exact takes_plain_iff.mpr ⟨_, rfl, hdetour⟩
  · rw [← List.append_assoc, ← List.append_assoc] at hrow
    rw [List.append_cancel_right hrow, List.append_assoc] at hpassable
    exact hpassable.detour hname hfresh
  · rw [hothers, hstepsOf, List.append_assoc, List.filterMap_append, List.append_cancel_left_eq,
      List.filterMap_cons, Path.ofPart?_of_isEntryName hname] at hnames
    exact hother (Component.normal.inj (List.cons.inj hnames).1)

/-- A run does not stay below a directory whose path is no plain text. -/
theorem isPlainText_of_isConfined (hout : out ≠ "") (hconfined : IsConfined out) :
    IsPlainText out := by
  obtain ⟨last, hlast, hfresh⟩ := exists_isEntryName_not_mem (rowOf out)
  obtain ⟨patterns, steps, hpatterns, htakes, hpassable, hsteps⟩ :=
    exists_takes_of_isConfined hconfined hout hlast hfresh
  by_contra hspecial
  obtain ⟨others, htakes, hpassable, helsewhere⟩ :=
    exists_detour hout hspecial hpatterns hlast htakes hpassable hsteps
  obtain ⟨names, hnames⟩ :=
    exists_names_of_takes hconfined hout hlast hfresh hpatterns htakes hpassable
  exact helsewhere names hnames

/-- A run finds nothing below a directory whose path has a gap. -/
theorem not_hasGap_of_isConfined (hout : out ≠ "") (hconfined : IsConfined out)
    (hplain : IsPlainText out) : ¬HasGap out := by
  obtain ⟨last, hlast, hfresh⟩ := exists_isEntryName_not_mem (rowOf out)
  obtain ⟨patterns, steps, hpatterns, htakes, hpassable, -⟩ :=
    exists_takes_of_isConfined hconfined hout hlast hfresh
  rw [patternBelow, patternOf_below hplain hout isLastName_anyRun] at hpatterns
  obtain rfl := Except.ok.inj hpatterns
  obtain ⟨rest, hrow, -⟩ := takes_plain_iff.mp htakes
  intro hgap
  refine hpassable.kept (isHere_base_iff.mpr hgap.1) ?_
  rw [← isLost_append_cons hlast.1 fun _ => rfl, hrow]
  exact ((isLost_rowOf_iff hout hgap.1).mpr hgap).append rest

end

/-- The runs that write below a directory stay there exactly if its path is plain text, and has
no gap. -/
theorem isConfined_iff (out : String) : IsConfined out ↔ IsPlainText out ∧ ¬HasGap out := by
  by_cases hout : out = ""
  · -- no directory has the empty path
    subst hout
    refine iff_of_true (fun d files htree hdirectory => ?_) (by decide +kernel)
    exact absurd rfl (isDirectory_iff.mp hdirectory).1.1
  · constructor
    · intro hconfined
      have hplain := isPlainText_of_isConfined hout hconfined
      exact ⟨hplain, not_hasGap_of_isConfined hout hconfined hplain⟩
    · rintro ⟨hplain, hgap⟩
      exact isConfined_of_isPlainText hplain hgap

/-- Two directories, of which the path of one is a pattern that the path of the other matches. -/
def neighbours : Disk :=
  ⟨[(["gen[1]"], .directory), (["gen[1]", "mod.rs"], .file markedContent),
    (["gen1"], .directory), (["gen1", "keep.rs"], .file markedContent)]⟩

/-- A run for one of the directories removes the file in the other, and leaves its own. -/
theorem neighbour_removed :
    plan neighbours [] "gen[1]" = .ok ⟨[⟨.remove, "gen1/keep.rs"⟩], 0⟩ ∧ ¬IsConfined "gen[1]" := by
  have hplan : plan neighbours [] "gen[1]" = .ok ⟨[⟨.remove, "gen1/keep.rs"⟩], 0⟩ := by
    decide +kernel
  refine ⟨hplan, fun hconfined => ?_⟩
  obtain ⟨p, hp, hstays⟩ := hconfined neighbours [] (isTree_of_entries (by decide +kernel))
    (by decide +kernel) (by simp)
  obtain rfl := Except.ok.inj (hplan.symm.trans hp)
  obtain ⟨-, names, -, hsteps⟩ := hstays.within _ (List.mem_singleton_self _)
  have hout : stepsOf "gen[1]" = [.normal "gen[1]"] := by decide +kernel
  have hpath : stepsOf "gen1/keep.rs" = [.normal "gen1", .normal "keep.rs"] := by decide +kernel
  rw [hout, hpath] at hsteps
  simp at hsteps

end Rowsmith.Output
