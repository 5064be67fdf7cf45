/-
# The paths of the emitted files

The files of a table stand in a directory of its own, and tables have different
names. So no two files of tables have one path. One more file, the module that names all
tables, stands in the output directory itself. A table whose name is empty has no
directory of its own, and its module has the path of that one. `paths_distinct_iff` says
that this is the only way in which one file takes the place of another.
-/

import Rowsmith.Proofs.Command.Selection
import Rowsmith.Proofs.Text.Words

namespace Rowsmith

open Code Disk Text

namespace Command

/-- The paths of files, component by component. -/
def pathsOf (files : List OutputFile) : List (List Component) :=
  files.map fun f => Path.components f.path

/-- The names of the files of a table in its directory. -/
def tableFileNames (o : Options) : List String :=
  (if o.schema then ["schema.sql"] else []) ++
  (if o.crud then ["db_crud.rs", "mod.rs"] else []) ++
  (if o.crud && o.emitsTests then ["db_crud_test.rs"] else [])

variable {t t' : Table} {ts : List Table} {o : Options} {out : String}

theorem pathsOf_eq_map (files : List OutputFile) :
    pathsOf files = (files.map OutputFile.path).map Path.components := by
  rw [List.map_map]
  rfl

/-- Every name is one of four different names of entries. -/
theorem tableFileNames_sublist (o : Options) :
    (tableFileNames o).Sublist ["schema.sql", "db_crud.rs", "mod.rs", "db_crud_test.rs"] := by
  have hpart (asked : Bool) (names : List String) :
      (if asked then names else []).Sublist names := by
    cases asked with
    | true => exact List.Sublist.refl names
    | false => exact List.nil_sublist names
  exact ((hpart o.schema ["schema.sql"]).append (hpart o.crud ["db_crud.rs", "mod.rs"])).append
    (hpart (o.crud && o.emitsTests) ["db_crud_test.rs"])

theorem nodup_tableFileNames (o : Options) : (tableFileNames o).Nodup :=
  List.Nodup.sublist (tableFileNames_sublist o) (by decide)

theorem isEntryName_of_mem_tableFileNames {name : String} (h : name ∈ tableFileNames o) :
    IsEntryName name := by
  have hall : ∀ name ∈ ["schema.sql", "db_crud.rs", "mod.rs", "db_crud_test.rs"],
      IsEntryName name := by
    decide
  exact hall name ((tableFileNames_sublist o).subset h)

theorem module_mem_tableFileNames_iff : "mod.rs" ∈ tableFileNames o ↔ o.crud = true := by
  simp [tableFileNames]

theorem pathsOf_tableFiles (ht : IsName t.name) :
    pathsOf (tableFiles t o out) = (tableFileNames o).map fun name =>
      Path.components out ++ (tableSteps t ++ [name]).map .normal := by
  have hpaths : (tableFiles t o out).map OutputFile.path =
      (tableFileNames o).map (Path.join (Path.join out t.name)) := by
    unfold tableFiles tableFileNames
    cases o.schema <;> cases o.crud <;> cases o.emitsTests <;> simp [accessorModule, testModule]
  rw [pathsOf_eq_map, hpaths, List.map_map]
  exact List.map_congr_left fun name hname =>
    components_join_file out ht (isEntryName_of_mem_tableFileNames hname)

/-- The steps to a file of a table tell the table and the file. -/
theorem tableSteps_append_inj {name name' : String}
    (h : tableSteps t ++ [name] = tableSteps t' ++ [name']) : t.name = t'.name ∧ name = name' := by
  obtain ⟨hsteps, hname⟩ := List.append_inj' h rfl
  refine ⟨?_, (List.cons.inj hname).1⟩
  unfold tableSteps at hsteps
  split at hsteps
  next hempty =>
    split at hsteps
    next hempty' => rw [hempty, hempty']
    next => cases hsteps
  next =>
    split at hsteps
    next => cases hsteps
    next => exact (List.cons.inj hsteps).1

theorem path_inj {steps steps' : List String}
    (h : Path.components out ++ steps.map .normal = Path.components out ++ steps'.map .normal) :
    steps = steps' :=
  List.map_injective_iff.mpr (fun _ _ => Component.normal.inj) (List.append_cancel_left h)

/-- A file of a table has a path that no other file of a table has. -/
theorem nodup_pathsOf_tables (hnames : ∀ t ∈ ts, IsName t.name)
    (hdistinct : (ts.map Table.name).Nodup) :
    (pathsOf (ts.flatMap fun t => tableFiles t o out)).Nodup := by
  have hmem : ∀ t ∈ ts, ∀ path ∈ pathsOf (tableFiles t o out), ∃ name ∈ tableFileNames o,
      Path.components out ++ (tableSteps t ++ [name]).map .normal = path := by
    intro t ht path hpath
    rw [pathsOf_tableFiles (hnames t ht)] at hpath
    exact List.mem_map.mp hpath
  rw [pathsOf, List.map_flatMap, List.nodup_flatMap]
  constructor
  · intro t ht
    change (pathsOf (tableFiles t o out)).Nodup
    rw [pathsOf_tableFiles (hnames t ht)]
    exact (nodup_tableFileNames o).map fun name name' h => (tableSteps_append_inj (path_inj h)).2
  · refine (List.pairwise_map.mp hdistinct).imp_of_mem fun {t t'} ht ht' hne path hpath hpath' => ?_
    obtain ⟨name, -, rfl⟩ := hmem t ht path hpath
    obtain ⟨name', -, heq⟩ := hmem t' ht' _ hpath'
    exact hne (tableSteps_append_inj (path_inj heq)).1.symm

/-- The path of the module that names all tables is taken by a table exactly if functions are
asked for and the table has no name. -/
theorem rootPath_mem_iff (hnames : ∀ t ∈ ts, IsName t.name) :
    Path.components (Path.join out "mod.rs") ∈ pathsOf (ts.flatMap fun t => tableFiles t o out) ↔
      o.crud = true ∧ ∃ t ∈ ts, t.name = "" := by
  have hroot : Path.components (Path.join out "mod.rs") =
      Path.components out ++ ["mod.rs"].map .normal := Path.components_join_name out (by decide)
  have hpaths : pathsOf (ts.flatMap fun t => tableFiles t o out) =
      ts.flatMap fun t => pathsOf (tableFiles t o out) := List.map_flatMap
  rw [hroot, hpaths, List.mem_flatMap]
  constructor
  · rintro ⟨t, ht, hmem⟩
    rw [pathsOf_tableFiles (hnames t ht)] at hmem
    obtain ⟨name, hname, heq⟩ := List.mem_map.mp hmem
    have hsteps := path_inj heq
    unfold tableSteps at hsteps
    split at hsteps
    next hempty =>
      obtain rfl : name = "mod.rs" := (List.cons.inj hsteps).1
      exact ⟨module_mem_tableFileNames_iff.mp hname, t, ht, hempty⟩
    next => simp at hsteps
  · rintro ⟨hcrud, t, ht, hempty⟩
    refine ⟨t, ht, ?_⟩
    rw [pathsOf_tableFiles (hnames t ht)]
    exact List.mem_map.mpr ⟨"mod.rs", module_mem_tableFileNames_iff.mpr hcrud, by
      simp [tableSteps, hempty]⟩

/-- The files for tables have different paths, unless functions are asked for and a table has
no name. -/
theorem nodup_pathsOf_filesFor_iff (hnames : ∀ t ∈ ts, IsName t.name)
    (hdistinct : (ts.map Table.name).Nodup) :
    (pathsOf (filesFor ts o out)).Nodup ↔ (o.crud = true → ∀ t ∈ ts, t.name ≠ "") := by
  have htables : (pathsOf (ts.flatMap fun t => tableFiles t o out)).Nodup :=
    nodup_pathsOf_tables hnames hdistinct
  unfold filesFor
  split
  next hroot =>
    rw [Bool.and_eq_true, Bool.not_eq_true', List.isEmpty_eq_false_iff] at hroot
    have hpaths : pathsOf (ts.flatMap (fun t => tableFiles t o out) ++ [rootFile ts out]) =
        (pathsOf (ts.flatMap fun t => tableFiles t o out)).concat
          (Path.components (Path.join out "mod.rs")) := by
      simp [pathsOf, rootFile]
    rw [hpaths, List.nodup_concat, and_iff_left htables, rootPath_mem_iff hnames]
    simp [hroot.1]
  next hnone =>
    rw [List.append_nil]
    refine iff_of_true htables fun hcrud t ht => ?_
    have hsome := List.ne_nil_of_mem ht
    simp [hcrud, hsome] at hnone

/-- Two files of one path are the module of a table without a name and the module that names all
tables, which comes last. -/
theorem eq_root_of_path_eq (hnames : ∀ t ∈ ts, IsName t.name)
    (hdistinct : (ts.map Table.name).Nodup) {i j : Nat} {f g : OutputFile} (hij : i < j)
    (hf : (filesFor ts o out)[i]? = some f) (hg : (filesFor ts o out)[j]? = some g)
    (heq : Path.components f.path = Path.components g.path) :
    j + 1 = (filesFor ts o out).length ∧ g = rootFile ts out := by
  have htables : (pathsOf (ts.flatMap fun t => tableFiles t o out)).Nodup :=
    nodup_pathsOf_tables hnames hdistinct
  unfold filesFor at hf hg ⊢
  by_cases hj : j < (ts.flatMap fun t => tableFiles t o out).length
  · -- Both are files of tables.
    rw [List.getElem?_append_left (by omega)] at hf
    rw [List.getElem?_append_left hj] at hg
    have hne := List.nodup_iff_getElem?_ne_getElem?.mp htables i j hij (by simpa [pathsOf] using hj)
    exact absurd (by simp [pathsOf, hf, hg, heq]) hne
  · rw [List.getElem?_append_right (by omega)] at hg
    split at hg
    next hroot =>
      rw [if_pos hroot]
      obtain ⟨hlast, rfl⟩ := List.getElem?_eq_some_iff.mp hg
      simp only [List.length_singleton, Nat.lt_one_iff] at hlast
      refine ⟨?_, by simp⟩
      rw [List.length_append, List.length_singleton]
      omega
    next => cases hg

/-! ## Generation -/

variable {d : Disk} {root : String} {listed : List String} {set : DeclSet}

theorem tableName_ne_empty_iff {e : Decl} :
    e.tableName ≠ "" ↔ ∃ c ∈ e.name.toList, isAlphanumeric c = true := by
  rw [Ne, Decl.tableName, snakeCase_eq_empty_iff]
  simp

/-- The files that are generated for a source tree have different paths exactly if functions are
not asked for, or there is a letter or number in the name of every entity. If two of them have one
path, then it is that of the module that names all tables, which comes last. -/
theorem paths_distinct_iff {files : List OutputFile} (hset : collectTree d root out = .ok set)
    (h : generate d root out listed o = .ok files) :
    ((pathsOf files).Nodup ↔
      (o.crud = true → ∀ e ∈ chosen set listed, ∃ c ∈ e.name.toList, isAlphanumeric c = true)) ∧
    ∀ i j f g, i < j → files[i]? = some f → files[j]? = some g →
      Path.components f.path = Path.components g.path →
        j + 1 = files.length ∧ g.path = Path.join out "mod.rs" := by
  obtain ⟨ts, hts, rfl⟩ := generate_eq_ok_iff.mp h
  obtain ⟨hgenerable, hcompiled⟩ := (tables_eq_ok_iff hset).mp hts
  have hnames : ∀ t ∈ ts, IsName t.name := fun t ht => isName_of_tables hts ht
  have hmap := map_name_of_compile hcompiled
  have hdistinct : (ts.map Table.name).Nodup := hmap ▸ hgenerable.apart
  have hempty : (∀ t ∈ ts, t.name ≠ "") ↔
      ∀ e ∈ chosen set listed, ∃ c ∈ e.name.toList, isAlphanumeric c = true := by
    simp only [← tableName_ne_empty_iff]
    rw [← List.forall_mem_map (f := Table.name) (P := (· ≠ "")), hmap, List.forall_mem_map]
  refine ⟨?_, fun i j f g hij hf hg heq => ?_⟩
  · rw [nodup_pathsOf_filesFor_iff hnames hdistinct, hempty]
  · obtain ⟨hlast, rfl⟩ := eq_root_of_path_eq hnames hdistinct hij hf hg heq
    exact ⟨hlast, rfl⟩

theorem paths_distinct_iff_ledger :
    ∃ ts, ts.map Table.name = ["invoice", "line"] ∧
      generate ledger "src" "out" ["Line"] {} = .ok (filesFor ts {} "out") ∧
      (pathsOf (filesFor ts {} "out")).Nodup := by
  have hnames : (chosen ledgerDecls ["Line"]).map Decl.tableName = ["invoice", "line"] := by
    decide
  have hgenerable : IsGenerable ledgerDecls ["Line"] := by
    refine ⟨⟨?_, fun d hd _ => isStruct_ledger d hd⟩,
      fun d hd => hasResult_ledger d (List.mem_of_mem_filter hd), by rw [hnames]; decide⟩
    exact List.forall_mem_singleton.mpr ⟨ledgerDecl "crate" "Line" false, by decide, rfl⟩
  obtain ⟨ts, hts⟩ := exists_mapM_eq_ok_iff.mpr hgenerable.compiled
  have hgenerate : generate ledger "src" "out" ["Line"] {} = .ok (filesFor ts {} "out") :=
    generate_eq_ok_iff.mpr ⟨ts, (tables_eq_ok_iff collectTree_ledger).mpr ⟨hgenerable, hts⟩, rfl⟩
  refine ⟨ts, (map_name_of_compile hts).trans hnames, hgenerate, ?_⟩
  refine (paths_distinct_iff collectTree_ledger hgenerate).1.mpr fun _ e he => ?_
  rw [← tableName_ne_empty_iff]
  have hname := List.mem_map_of_mem (f := Decl.tableName) he
  rw [hnames] at hname
  intro hempty
  simp [hempty] at hname

/-- A source tree with an entity that has no letter or number in its name. -/
def burrow : Disk :=
  ⟨[(["src"], .directory),
    (["src", "lib.rs"], .file (.text "#[derive(Entity)] struct __ \x7b id: i64 \x7d"))]⟩

/-- The table of the entity. -/
def burrowTable : Table where
  entity := ⟨"crate", "__"⟩
  name := ""
  columns := [⟨"id", "id", .bigInt, .int64, .direct, true, true⟩]

/-- The module of the entity and the module that names all tables have one path and different
contents. -/
theorem module_takes_place :
    ∃ files, generate burrow "src" "out" [] {} = .ok files ∧
      files.map OutputFile.path =
        ["out/schema.sql", "out/db_crud.rs", "out/mod.rs", "out/db_crud_test.rs", "out/mod.rs"] ∧
      ¬(pathsOf files).Nodup ∧
      files[2]?.map OutputFile.content ≠ files[4]?.map OutputFile.content := by
  have htables : tables burrow "src" "out" [] = .ok [burrowTable] :=
    eq_ok_of_toOption (by decide +kernel)
  have hpaths : (filesFor [burrowTable] {} "out").map OutputFile.path =
      ["out/schema.sql", "out/db_crud.rs", "out/mod.rs", "out/db_crud_test.rs", "out/mod.rs"] := by
    decide +kernel
  refine ⟨_, generate_eq_ok_iff.mpr ⟨_, htables, rfl⟩, hpaths, ?_, by decide +kernel⟩
  rw [pathsOf_eq_map, hpaths]
  simp

end Command

end Rowsmith
