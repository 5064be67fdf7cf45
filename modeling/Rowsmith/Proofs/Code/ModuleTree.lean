/-
# The tree of emitted modules

A line `mod x;` of a file `mod.rs` stands for a file `x.rs` beside it, or for a file
`mod.rs` in a directory `x` beside it. Which files there are for a table and which
lines there are for it is decided in two places from the same switches.
`isClosed_bundle` says that lines and files belong together whatever the switches are:
every line has its file, and every file of code but the outermost `mod.rs` has one
line.
-/

import Mathlib.Data.List.Nodup
import Rowsmith.Proofs.Command.Emitted
import Rowsmith.Proofs.Text.Ordered

namespace Rowsmith

/-! ## Lines -/

namespace Text

/-- A text goes on with a new line after each line feed. -/
theorem exists_linesFrom_append (word cs rest : List Char) :
    ∃ ls, linesFrom word (cs ++ '\n' :: rest) = ls ++ linesFrom [] rest := by
  induction cs generalizing word with
  | nil => exact ⟨[endLine word], by simp [linesFrom]⟩
  | cons c cs ih =>
      by_cases hc : c = '\n'
      · obtain ⟨ls, hls⟩ := ih []
        exact ⟨endLine word :: ls, by simp [linesFrom, hc, hls]⟩
      · obtain ⟨ls, hls⟩ := ih (c :: word)
        exact ⟨ls, by simp [linesFrom, hc, hls]⟩

/-- What stands between two line feeds is a line. -/
theorem mem_lines {line : String} (hfeed : '\n' ∉ line.toList) (hreturn : '\r' ∉ line.toList)
    (before after : String) : line ∈ lines (before ++ "\n" ++ (line ++ "\n" ++ after)) := by
  have htext : (before ++ "\n" ++ (line ++ "\n" ++ after)).toList =
      before.toList ++ '\n' :: (line ++ "\n" ++ after).toList := by simp
  obtain ⟨ls, hls⟩ := exists_linesFrom_append [] before.toList (line ++ "\n" ++ after).toList
  rw [lines, htext, hls, List.map_append, ← lines, lines_append_newline hfeed hreturn]
  simp

end Text

namespace Code

open Command Disk Text

/-- The module that a line of code puts into a file of its own, if it does. -/
def moduleOfLine? (line : String) : Option String :=
  let cs := line.toList
  let cs := if "pub ".toList.isPrefixOf cs then cs.drop 4 else cs
  if "mod ".toList.isPrefixOf cs && cs.getLast? == some ';' then
    some (String.ofList (cs.drop 4).dropLast)
  else none

/-- The modules that a text puts into files of their own, one for each line. -/
def declaredModules (content : String) : List String :=
  (lines content).filterMap moduleOfLine?

/-- The components of the directory of a file. -/
def directoryOf (path : String) : List Component :=
  (Path.components path).dropLast

/-- Whether the last component of a path is `name`. -/
def isNamed (name path : String) : Bool :=
  (Path.components path).getLast? == some (.normal name)

/-- A line that puts a module into a file of its own, with the directory of the file in which
the line stands. -/
structure ModuleLine where
  directory : List Component
  name : String
  deriving DecidableEq

/-- The lines `mod x;` of all files `mod.rs`. -/
def moduleLines (files : List OutputFile) : List ModuleLine :=
  files.flatMap fun f =>
    if isNamed "mod.rs" f.path then (declaredModules f.content).map (⟨directoryOf f.path, ·⟩)
    else []

/-- The file is one of the two for which the line may stand. -/
def ModuleLine.Declares (l : ModuleLine) (f : OutputFile) : Prop :=
  Path.components f.path = l.directory ++ [.normal (l.name ++ ".rs")] ∨
    Path.components f.path = l.directory ++ [.normal l.name, .normal "mod.rs"]

instance (l : ModuleLine) (f : OutputFile) : Decidable (l.Declares f) :=
  inferInstanceAs (Decidable (_ ∨ _))

/-- The line by which a module of tests includes the definition of a table. -/
def schemaLine : String :=
  "const SCHEMA: &str = include_str!(\"schema.sql\");"

/-- Files below `out` declare each other: each line `mod x;` of a file `mod.rs` has its file,
each file of code has one such line unless it is the outermost file `mod.rs`, and the
definition of the table that a module of tests includes is there. -/
structure IsClosed (out : String) (files : List OutputFile) : Prop where
  present : ∀ l ∈ moduleLines files, ∃ f ∈ files, l.Declares f
  declared : ∀ f ∈ files, ∀ stem, isNamed (stem ++ ".rs") f.path = true →
    Path.components f.path ≠ Path.components out ++ [.normal "mod.rs"] →
    (moduleLines files).countP (·.Declares f) = 1
  schema : ∀ f ∈ files, isNamed (testModule ++ ".rs") f.path = true →
    schemaLine ∈ lines f.content ∧ ∃ g ∈ files,
      Path.components g.path = directoryOf f.path ++ [.normal "schema.sql"]

/-- The files of tables, and the module that names them if functions are asked for. -/
def bundle (ts : List Table) (o : Options) (out : String) : List OutputFile :=
  ts.flatMap (fun t => tableFiles t o out) ++ if o.crud then [rootFile ts out] else []

/-- Tables that were compiled, with different names none of which is empty. -/
structure IsCompiledList (ts : List Table) : Prop where
  compiled : ∀ t ∈ ts, ∃ decls textBound entity, Table.compile decls textBound entity = .ok t
  named : ∀ t ∈ ts, t.name ≠ ""
  distinct : (ts.map Table.name).Nodup

variable {ts : List Table} {t : Table} {o : Options} {out : String} {f : OutputFile}

namespace IsCompiledList

theorem isName (h : IsCompiledList ts) (ht : t ∈ ts) : IsName t.name := by
  obtain ⟨decls, textBound, entity, hcompile⟩ := h.compiled t ht
  obtain ⟨fields, marked, k, -, htable⟩ := Table.compile_eq_ok_iff.mp hcompile
  exact htable.isName_name

theorem components_join (h : IsCompiledList ts) (ht : t ∈ ts) {name : String}
    (hname : IsEntryName name) :
    Path.components (Path.join (Path.join out t.name) name) =
      Path.components out ++ [.normal t.name, .normal name] := by
  rw [Path.components_join_name _ hname,
    Path.components_join_name _ (isEntryName_of_isName (h.isName ht) (h.named t ht)),
    List.append_assoc, List.singleton_append]

theorem directoryOf_join (h : IsCompiledList ts) (ht : t ∈ ts) {name : String}
    (hname : IsEntryName name) :
    directoryOf (Path.join (Path.join out t.name) name) =
      Path.components out ++ [.normal t.name] := by
  rw [directoryOf, h.components_join ht hname]
  simp

theorem isNamed_join_iff (h : IsCompiledList ts) (ht : t ∈ ts) {name file : String}
    (hfile : IsEntryName file) :
    isNamed name (Path.join (Path.join out t.name) file) = true ↔ file = name := by
  rw [isNamed, h.components_join ht hfile]
  simp

end IsCompiledList

/-! ## Lines of modules -/

theorem declaredModules_append_newline {line : String} (hfeed : '\n' ∉ line.toList)
    (hreturn : '\r' ∉ line.toList) (rest : String) :
    declaredModules (line ++ "\n" ++ rest) =
      (moduleOfLine? line).toList ++ declaredModules rest := by
  rw [declaredModules, lines_append_newline hfeed hreturn, List.filterMap_cons]
  cases moduleOfLine? line <;> rfl

theorem declaredModules_tableModule (o : Options) :
    declaredModules (printFile header (tableModule o)) =
      accessorModule :: if o.emitsTests then [testModule] else [] := by
  rw [tableModule]
  cases o.emitsTests
  · decide +kernel
  · decide +kernel

/-- A line is read as the module for which it was written. -/
theorem moduleOfLine?_public (name : String) :
    moduleOfLine? ("pub mod " ++ name ++ ";") = some name := by
  have htext : ("pub mod " ++ name ++ ";").toList =
      "pub ".toList ++ ("mod ".toList ++ (name.toList ++ [';'])) := by simp
  have hlast : ("mod ".toList ++ (name.toList ++ [';'])).getLast? = some ';' := by
    rw [← List.append_assoc, List.getLast?_concat]
  have hpub : ("pub ".toList ++ ("mod ".toList ++ (name.toList ++ [';']))).drop 4 =
      "mod ".toList ++ (name.toList ++ [';']) := List.drop_left' rfl
  have hmod : ("mod ".toList ++ (name.toList ++ [';'])).drop 4 = name.toList ++ [';'] :=
    List.drop_left' rfl
  have hprefix : ∀ cs ds : List Char, cs.isPrefixOf (cs ++ ds) = true := fun cs ds =>
    List.isPrefixOf_iff_prefix.mpr (List.prefix_append cs ds)
  simp only [moduleOfLine?, htext, hprefix, if_true, hpub, hlast, hmod, BEq.rfl, Bool.and_self,
    List.dropLast_concat, String.ofList_toList]

/-- The lines of the outermost module are those of its modules. -/
theorem declaredModules_rootModule (h : IsCompiledList ts) :
    declaredModules (printFile header (rootModule ts)) = ordered (ts.map Table.name) := by
  have hnames : ∀ name ∈ ordered (ts.map Table.name), IsName name := by
    intro name hname
    obtain ⟨t, ht, rfl⟩ := List.mem_map.mp (mem_ordered.mp hname)
    exact h.isName ht
  have hheader : moduleOfLine? header = none := by decide +kernel
  rw [printFile, rootModule, declaredModules_append_newline (by decide +kernel)
    (by decide +kernel), hheader, Option.toList_none, List.nil_append]
  generalize ordered (ts.map Table.name) = names at hnames ⊢
  induction names with
  | nil => rfl
  | cons name names ih =>
      obtain ⟨hname, hnames⟩ := List.forall_mem_cons.mp hnames
      have htext : String.join (((name :: names).map (Item.submodule [] true)).map
          fun i => "\n" ++ printItem i) = "" ++ "\n" ++ ("pub mod " ++ name ++ ";" ++ "\n" ++
            String.join ((names.map (Item.submodule [] true)).map fun i =>
              "\n" ++ printItem i)) := by
        simp [← String.toList_inj, printItem, printAttributes, visibility]
      have hblank : moduleOfLine? "" = none := by decide +kernel
      have hfeed : '\n' ∉ name.toList := hname.not_mem (by decide)
      have hreturn : '\r' ∉ name.toList := hname.not_mem (by decide)
      rw [htext, declaredModules_append_newline (by simp) (by simp), hblank, Option.toList_none,
        List.nil_append, declaredModules_append_newline (by simpa using hfeed)
        (by simpa using hreturn), moduleOfLine?_public, ih hnames]
      rfl

/-- The lines for a table in its own directory. -/
def tableLines (o : Options) (out : String) (t : Table) : List ModuleLine :=
  (accessorModule :: if o.emitsTests then [testModule] else []).map
    (⟨Path.components out ++ [.normal t.name], ·⟩)

/-- The lines for the directories of all tables. -/
def rootLines (ts : List Table) (out : String) : List ModuleLine :=
  (ordered (ts.map Table.name)).map (⟨Path.components out, ·⟩)

theorem moduleLines_tableFiles (h : IsCompiledList ts) (ht : t ∈ ts) :
    moduleLines (tableFiles t o out) = if o.crud then tableLines o out t else [] := by
  have hother : ∀ name, IsEntryName name → name ≠ "mod.rs" →
      isNamed "mod.rs" (Path.join (Path.join out t.name) name) = false := by
    intro name hname hne
    rwa [Bool.eq_false_iff, ne_eq, h.isNamed_join_iff ht hname]
  have hmodule : isNamed "mod.rs" (Path.join (Path.join out t.name) "mod.rs") = true :=
    (h.isNamed_join_iff ht (by decide)).mpr rfl
  have hdirectory : directoryOf (Path.join (Path.join out t.name) "mod.rs") =
      Path.components out ++ [.normal t.name] :=
    h.directoryOf_join ht (by decide)
  have hschema := hother "schema.sql" (by decide) (by decide)
  have haccessors := hother (accessorModule ++ ".rs") (by decide +kernel) (by decide +kernel)
  have htests := hother (testModule ++ ".rs") (by decide +kernel) (by decide +kernel)
  cases hs : o.schema <;> cases hc : o.crud <;> cases he : o.emitsTests <;>
    simp [moduleLines, tableFiles, tableLines, hs, hc, he, hschema, haccessors, htests, hmodule,
      hdirectory, declaredModules_tableModule]

theorem moduleLines_rootFile (h : IsCompiledList ts) :
    moduleLines [rootFile ts out] = rootLines ts out := by
  have hpath : Path.components (rootFile ts out).path = Path.components out ++ [.normal "mod.rs"] :=
    Path.components_join_name out (by decide)
  have hlines : declaredModules (rootFile ts out).content = ordered (ts.map Table.name) :=
    declaredModules_rootModule h
  simp [moduleLines, isNamed, directoryOf, hpath, hlines, rootLines]

/-- There are lines exactly if functions are asked for. -/
theorem moduleLines_bundle (h : IsCompiledList ts) :
    moduleLines (bundle ts o out) =
      if o.crud then ts.flatMap (tableLines o out) ++ rootLines ts out else [] := by
  have htables : moduleLines (ts.flatMap fun t => tableFiles t o out) =
      ts.flatMap fun t => if o.crud then tableLines o out t else [] := by
    rw [moduleLines, List.flatMap_assoc]
    exact List.flatMap_congr fun t ht => moduleLines_tableFiles h ht
  rw [bundle, moduleLines, List.flatMap_append, ← moduleLines, ← moduleLines, htables]
  cases o.crud
  · simp [moduleLines]
  · rw [if_pos rfl, if_pos rfl, moduleLines_rootFile h]
    rfl

theorem mem_tableLines_iff {l : ModuleLine} :
    l ∈ tableLines o out t ↔ l.directory = Path.components out ++ [.normal t.name] ∧
      (l.name = accessorModule ∨ o.emitsTests = true ∧ l.name = testModule) := by
  obtain ⟨directory, name⟩ := l
  cases he : o.emitsTests
  · simp [tableLines, he, @eq_comm _ directory, @eq_comm _ name]
  · simp [tableLines, he, @eq_comm _ directory, @eq_comm _ name, and_or_left]

theorem mem_rootLines_iff {l : ModuleLine} :
    l ∈ rootLines ts out ↔ l.directory = Path.components out ∧ ∃ t ∈ ts, t.name = l.name := by
  obtain ⟨directory, name⟩ := l
  simp [rootLines, eq_comm, and_comm]

theorem directory_ne (out name : String) :
    Path.components out ++ [.normal name] ≠ Path.components out := by
  simp

/-- There is no line twice. -/
theorem nodup_moduleLines (h : IsCompiledList ts) : (moduleLines (bundle ts o out)).Nodup := by
  rw [moduleLines_bundle h]
  split
  · refine List.Nodup.append (List.nodup_flatMap.mpr ⟨fun t _ => ?_, ?_⟩) ?_ ?_
    · cases he : o.emitsTests <;> simp [tableLines, he]
      decide
    · refine (List.pairwise_map.mp h.distinct).imp fun hne l hl hl' => hne ?_
      have hsame := (mem_tableLines_iff.mp hl).1.symm.trans (mem_tableLines_iff.mp hl').1
      simpa using hsame
    · exact (nodup_ordered _).map fun _ _ heq => congrArg ModuleLine.name heq
    · intro l hl hl'
      obtain ⟨t, -, hl⟩ := List.mem_flatMap.mp hl
      exact directory_ne out t.name
        ((mem_tableLines_iff.mp hl).1.symm.trans (mem_rootLines_iff.mp hl').1)
  · exact List.nodup_nil

/-! ## Files of modules -/

section

variable {l : ModuleLine} {name stem : String}

/-- A file in the directory of a table is that of a line there, or of a line for the directory. -/
theorem declares_iff {file : String}
    (hf : Path.components f.path = Path.components out ++ [.normal name, .normal file]) :
    l.Declares f ↔
      l.directory = Path.components out ++ [.normal name] ∧ file = l.name ++ ".rs" ∨
        l.directory = Path.components out ∧ l.name = name ∧ file = "mod.rs" := by
  have hone : Path.components out ++ [.normal name, .normal file] =
      (Path.components out ++ [.normal name]) ++ [.normal file] := by simp
  have htwo : Path.components out ++ [.normal name, .normal file] =
      l.directory ++ [.normal l.name, .normal "mod.rs"] ↔
        l.directory = Path.components out ∧ l.name = name ∧ file = "mod.rs" := by
    constructor
    · intro heq
      obtain ⟨hdirectory, hnames⟩ := List.append_inj' heq rfl
      simp only [List.cons.injEq, Component.normal.injEq, and_true] at hnames
      exact ⟨hdirectory.symm, hnames.1.symm, hnames.2⟩
    · rintro ⟨hdirectory, rfl, rfl⟩
      rw [hdirectory]
  rw [ModuleLine.Declares, hf, htwo, hone, List.append_singleton_inj]
  simp [eq_comm]

/-- No line for the directory of a table stands for a file of code in it. -/
theorem declares_iff_of_stem
    (hf : Path.components f.path = Path.components out ++ [.normal name, .normal (stem ++ ".rs")])
    (hstem : stem ++ ".rs" ≠ "mod.rs") :
    l.Declares f ↔ l = ⟨Path.components out ++ [.normal name], stem⟩ := by
  obtain ⟨directory, declared⟩ := l
  rw [declares_iff hf]
  simp [hstem, String.append_left_inj, @eq_comm _ stem]

/-- No line in the directory of a table stands for the file `mod.rs` there. -/
theorem declares_iff_of_module (hl : l.name ++ ".rs" ≠ "mod.rs" ∨ l.directory = Path.components out)
    (hf : Path.components f.path = Path.components out ++ [.normal name, .normal "mod.rs"]) :
    l.Declares f ↔ l = ⟨Path.components out, name⟩ := by
  obtain ⟨directory, declared⟩ := l
  rw [declares_iff hf]
  constructor
  · rintro (⟨hdirectory, hdeclared⟩ | ⟨rfl, rfl, -⟩)
    · rcases hl with hne | hroot
      · exact absurd hdeclared.symm hne
      · exact absurd (hdirectory.symm.trans hroot) (directory_ne out name)
    · rfl
  · rintro ⟨⟩
    exact .inr ⟨rfl, rfl, rfl⟩

end

theorem mem_moduleLines_iff (h : IsCompiledList ts) {l : ModuleLine} :
    l ∈ moduleLines (bundle ts o out) ↔
      o.crud = true ∧ ((∃ t ∈ ts, l ∈ tableLines o out t) ∨ l ∈ rootLines ts out) := by
  rw [moduleLines_bundle h, List.mem_ite_nil_right, List.mem_append, List.mem_flatMap]

theorem mem_bundle_iff :
    f ∈ bundle ts o out ↔
      (∃ t ∈ ts, IsTableFile t o out f) ∨ o.crud = true ∧ f = rootFile ts out := by
  simp only [bundle, List.mem_append, List.mem_flatMap, mem_tableFiles_iff,
    List.mem_ite_nil_right, List.mem_singleton]

/-- A line that alone stands for a file is the one line for it. -/
theorem countP_declares_eq_one (h : IsCompiledList ts) {l : ModuleLine}
    (hl : l ∈ moduleLines (bundle ts o out))
    (hf : ∀ l' ∈ moduleLines (bundle ts o out), l'.Declares f ↔ l' = l) :
    (moduleLines (bundle ts o out)).countP (·.Declares f) = 1 := by
  rw [← List.count_eq_one_of_mem (nodup_moduleLines h) hl, List.count]
  exact List.countP_congr fun l' hl' => by simpa using hf l' hl'

/-- The name of a file that ends another way is not that of a file of code. -/
theorem schema_ne (stem : String) : "schema.sql" ≠ stem ++ ".rs" := by
  intro heq
  have hlast := congrArg (fun s : String => s.toList.getLast?) heq
  simp [List.getLast?_append] at hlast

/-- A file of code for a table has one line. -/
theorem countP_declares_of_isTableFile (h : IsCompiledList ts) (ht : t ∈ ts)
    (hf : IsTableFile t o out f) {stem : String}
    (hstem : isNamed (stem ++ ".rs") f.path = true) :
    (moduleLines (bundle ts o out)).countP (·.Declares f) = 1 := by
  cases hf with
  | schema =>
      exact absurd ((h.isNamed_join_iff ht (by decide)).mp hstem) (schema_ne stem)
  | accessors hcrud =>
      have hl : ⟨Path.components out ++ [.normal t.name], accessorModule⟩ ∈ tableLines o out t :=
        mem_tableLines_iff.mpr ⟨rfl, .inl rfl⟩
      refine countP_declares_eq_one h ((mem_moduleLines_iff h).mpr ⟨hcrud, .inl ⟨t, ht, hl⟩⟩)
        fun l' _ => declares_iff_of_stem (h.components_join ht ?_) ?_
      · decide +kernel
      · decide +kernel
  | tests hcrud htests =>
      have hl : ⟨Path.components out ++ [.normal t.name], testModule⟩ ∈ tableLines o out t :=
        mem_tableLines_iff.mpr ⟨rfl, .inr ⟨htests, rfl⟩⟩
      refine countP_declares_eq_one h ((mem_moduleLines_iff h).mpr ⟨hcrud, .inl ⟨t, ht, hl⟩⟩)
        fun l' _ => declares_iff_of_stem (h.components_join ht ?_) ?_
      · decide +kernel
      · decide +kernel
  | module hcrud =>
      have hl : ⟨Path.components out, t.name⟩ ∈ rootLines ts out :=
        mem_rootLines_iff.mpr ⟨rfl, t, ht, rfl⟩
      refine countP_declares_eq_one h ((mem_moduleLines_iff h).mpr ⟨hcrud, .inr hl⟩)
        fun l' hl' => declares_iff_of_module ?_ (h.components_join ht (by decide))
      rcases ((mem_moduleLines_iff h).mp hl').2 with ⟨t', -, hl'⟩ | hl'
      · rcases (mem_tableLines_iff.mp hl').2 with hname | ⟨-, hname⟩
        · exact .inl (hname ▸ by decide +kernel)
        · exact .inl (hname ▸ by decide +kernel)
      · exact .inr (mem_rootLines_iff.mp hl').1

/-- A line of a module has its file. -/
theorem exists_declared (h : IsCompiledList ts) {l : ModuleLine}
    (hl : l ∈ moduleLines (bundle ts o out)) : ∃ f ∈ bundle ts o out, l.Declares f := by
  obtain ⟨hcrud, ⟨t, ht, hl⟩ | hl⟩ := (mem_moduleLines_iff h).mp hl
  · obtain ⟨hdirectory, hname | ⟨htests, hname⟩⟩ := mem_tableLines_iff.mp hl
    · refine ⟨_, mem_bundle_iff.mpr (.inl ⟨t, ht, .accessors hcrud⟩), .inl ?_⟩
      rw [h.components_join ht (by decide +kernel), hdirectory, hname, List.append_assoc]
      rfl
    · refine ⟨_, mem_bundle_iff.mpr (.inl ⟨t, ht, .tests hcrud htests⟩), .inl ?_⟩
      rw [h.components_join ht (by decide +kernel), hdirectory, hname, List.append_assoc]
      rfl
  · obtain ⟨hdirectory, t, ht, hname⟩ := mem_rootLines_iff.mp hl
    refine ⟨_, mem_bundle_iff.mpr (.inl ⟨t, ht, .module hcrud⟩), .inr ?_⟩
    rw [h.components_join ht (by decide), hdirectory, hname]

/-! ## Included definitions -/

theorem printFile_append (first : String) (before after : List Item) (i : Item) :
    printFile first ⟨before ++ i :: after⟩ = printFile first ⟨before⟩ ++ "\n" ++
      (printItem i ++ String.join (after.map fun i => "\n" ++ printItem i)) := by
  simp [← String.toList_inj, printFile]

/-- A module of tests has the line that includes the definition of the table. -/
theorem schemaLine_mem (t : Table) (o : Options) :
    schemaLine ∈ lines (printFile header (testFile t o)) := by
  have hitem : printItem (.constant ⟨[], false, "SCHEMA", "&str", "include_str!(\"schema.sql\")"⟩) =
      schemaLine ++ "\n" := by
    decide +kernel
  have hfile : testFile t o = ⟨[.uses (testUses t o),
      .uses ("super::db_crud as crud" :: modelUses t)] ++ .constant ⟨[], false, "SCHEMA", "&str",
        "include_str!(\"schema.sql\")"⟩ ::
      (.record (caseRecord t) :: (testFunctions t o).map .function)⟩ := rfl
  rw [hfile, printFile_append, hitem]
  exact mem_lines (by decide +kernel) (by decide +kernel) _ _

/-- The files that are emitted for tables that were compiled, with different names none of
which is empty, are closed, whatever the options and the output directory are. -/
theorem isClosed_bundle (h : IsCompiledList ts) (o : Options) (out : String) :
    IsClosed out (bundle ts o out) where
  present l hl := exists_declared h hl
  declared f hf stem hstem hroot := by
    rcases mem_bundle_iff.mp hf with ⟨t, ht, hf⟩ | ⟨-, rfl⟩
    · exact countP_declares_of_isTableFile h ht hf hstem
    · exact absurd (Path.components_join_name out (by decide)) hroot
  schema f hf hname := by
    rcases mem_bundle_iff.mp hf with ⟨t, ht, hf⟩ | ⟨-, rfl⟩
    · cases hf with
      | schema => exact absurd ((h.isNamed_join_iff ht (by decide)).mp hname) (schema_ne _)
      | accessors =>
          exact absurd ((h.isNamed_join_iff ht (by decide +kernel)).mp hname) (by decide +kernel)
      | module => exact absurd ((h.isNamed_join_iff ht (by decide)).mp hname) (by decide +kernel)
      | tests hcrud htests =>
          have hschema : o.schema = true := ((Bool.and_eq_true _ _).mp htests).2
          refine ⟨schemaLine_mem t o, _, mem_bundle_iff.mpr (.inl ⟨t, ht, .schema hschema⟩), ?_⟩
          rw [h.components_join ht (by decide), h.directoryOf_join ht (by decide +kernel),
            List.append_assoc]
          rfl
    · have hsame : "mod.rs" = testModule ++ ".rs" := by
        rw [isNamed, rootFile, Path.components_join_name out (by decide)] at hname
        simpa using hname
      exact absurd hsame (by decide +kernel)

/-- A struct with an identity only. -/
def shelfDecl (name : String) : Decl :=
  ⟨⟨"crate", name⟩, .struct [⟨"id", .primitive .int64, "i64", none, false⟩] true⟩

/-- The files for two tables are closed. -/
theorem isClosed_shelves :
    ∃ ts, [shelfDecl "TopShelf", shelfDecl "Book"].mapM (Table.compile .empty 255) = .ok ts ∧
      IsCompiledList ts ∧ IsClosed "out" (bundle ts {} "out") := by
  have hsome : ([shelfDecl "TopShelf", shelfDecl "Book"].mapM
      (Table.compile .empty 255)).toOption.map (List.map Table.name) =
        some ["top_shelf", "book"] := by
    decide +kernel
  obtain ⟨ts, hts, hnames⟩ := Option.map_eq_some_iff.mp hsome
  have hts := eq_ok_of_toOption hts
  have hcompiled : IsCompiledList ts := by
    refine ⟨fun t ht => ?_, fun t ht => ?_, ?_⟩
    · obtain ⟨d, -, hd⟩ := exists_of_mem_mapM hts ht
      exact ⟨_, _, d, hd⟩
    · have hmem := List.mem_map_of_mem (f := Table.name) ht
      rw [hnames] at hmem
      rintro hempty
      simp [hempty] at hmem
    · rw [hnames]
      decide
  exact ⟨ts, hts, hcompiled, isClosed_bundle hcompiled {} "out"⟩

end Code

end Rowsmith
