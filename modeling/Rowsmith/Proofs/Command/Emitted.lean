/-
# Emitted files

Every file that is emitted for a source tree carries the mark in its first line,
and lies below the output directory: its path goes on from the path of that
directory by the name of a table and the name of a file, and names of tables have
no slashes or points. A table may have no name; its files then stand in the output
directory itself. For an output directory without a path no file is emitted, since
every source file lies below it and is left out.
-/

import Rowsmith.Command.Generation
import Rowsmith.Output.Plan
import Rowsmith.Proofs.Disk.Path
import Rowsmith.Proofs.Table.Compile

namespace Rowsmith

open Disk Code Text

/-! ## First lines -/

namespace Text

theorem linesFrom_append_newline {word cs : List Char} (hcs : '\n' ∉ cs) (rest : List Char) :
    linesFrom word (cs ++ '\n' :: rest) = endLine (cs.reverse ++ word) :: linesFrom [] rest := by
  induction cs generalizing word with
  | nil => simp [linesFrom]
  | cons c cs ih =>
      rw [List.mem_cons, not_or] at hcs
      rw [List.cons_append, linesFrom, if_neg (Ne.symm hcs.1), ih hcs.2]
      simp

theorem endLine_reverse {cs : List Char} (hcs : '\r' ∉ cs) : endLine cs.reverse = cs := by
  unfold endLine
  split
  next word hword =>
    have hmem : '\r' ∈ cs.reverse := by rw [hword]; exact List.mem_cons_self
    exact absurd (List.mem_reverse.mp hmem) hcs
  next => exact List.reverse_reverse cs

/-- The first line goes up to the first line feed. -/
theorem lines_append_newline {first : String} (hfeed : '\n' ∉ first.toList)
    (hreturn : '\r' ∉ first.toList) (rest : String) :
    lines (first ++ "\n" ++ rest) = first :: lines rest := by
  have htext : (first ++ "\n" ++ rest).toList = first.toList ++ '\n' :: rest.toList := by simp
  rw [lines, htext, linesFrom_append_newline hfeed, List.append_nil, endLine_reverse hreturn]
  simp [lines]

theorem firstLine?_append_newline {first : String} (hfeed : '\n' ∉ first.toList)
    (hreturn : '\r' ∉ first.toList) (rest : String) :
    firstLine? (first ++ "\n" ++ rest) = some first := by
  rw [firstLine?, lines_append_newline hfeed hreturn, List.head?_cons]

end Text

namespace Command

open Output

/-! ## Marks -/

/-- The mark is found in the first line of a file of code. -/
theorem isMarked_printFile (file : File) : isMarked (printFile header file) = true := by
  rw [isMarked, printFile, firstLine?_append_newline (by decide +kernel) (by decide +kernel)]
  decide +kernel

/-- The mark is found in the first line of a definition of a table. -/
theorem isMarked_schema (sql : String) : isMarked (s!"-- {generatedMark}\n\n" ++ sql) = true := by
  have htext : s!"-- {generatedMark}\n\n" ++ sql =
      "-- " ++ generatedMark ++ "\n" ++ ("\n" ++ sql) := by
    show "-- " ++ generatedMark ++ "\n\n" ++ sql = _
    simp [← String.toList_inj]
  rw [isMarked, htext, firstLine?_append_newline (by decide +kernel) (by decide +kernel)]
  decide +kernel

variable {t : Table} {ts : List Table} {o : Options} {out : String} {f : OutputFile}

/-- The files that are emitted for a table, each with the options that it takes. -/
inductive IsTableFile (t : Table) (o : Options) (out : String) : OutputFile → Prop where
  | schema (hschema : o.schema = true) :
      IsTableFile t o out ⟨Path.join (Path.join out t.name) "schema.sql",
        s!"-- {generatedMark}\n\n" ++ t.createSql o.dialect⟩
  | accessors (hcrud : o.crud = true) :
      IsTableFile t o out ⟨Path.join (Path.join out t.name) (accessorModule ++ ".rs"),
        printFile header (accessorFile t o)⟩
  | module (hcrud : o.crud = true) :
      IsTableFile t o out ⟨Path.join (Path.join out t.name) "mod.rs",
        printFile header (tableModule o)⟩
  | tests (hcrud : o.crud = true) (htests : o.emitsTests = true) :
      IsTableFile t o out ⟨Path.join (Path.join out t.name) (testModule ++ ".rs"),
        printFile header (testFile t o)⟩

theorem mem_tableFiles_iff : f ∈ tableFiles t o out ↔ IsTableFile t o out f := by
  simp only [tableFiles, List.mem_append, List.mem_ite_nil_right, Bool.and_eq_true,
    List.mem_singleton, List.mem_pair]
  constructor
  · rintro ((⟨hschema, rfl⟩ | ⟨hcrud, rfl | rfl⟩) | ⟨⟨hcrud, htests⟩, rfl⟩)
    · exact .schema hschema
    · exact .accessors hcrud
    · exact .module hcrud
    · exact .tests hcrud htests
  · intro h
    cases h with
    | schema hschema => exact .inl (.inl ⟨hschema, rfl⟩)
    | accessors hcrud => exact .inl (.inr ⟨hcrud, .inl rfl⟩)
    | module hcrud => exact .inl (.inr ⟨hcrud, .inr rfl⟩)
    | tests hcrud htests => exact .inr ⟨⟨hcrud, htests⟩, rfl⟩

/-- A file is emitted for one of the tables, or it is the module that names them all. -/
theorem mem_filesFor_iff :
    f ∈ filesFor ts o out ↔ (∃ t ∈ ts, IsTableFile t o out f) ∨
      (o.crud = true ∧ ts.isEmpty = false) ∧ f = rootFile ts out := by
  simp only [filesFor, List.mem_append, List.mem_flatMap, mem_tableFiles_iff,
    List.mem_ite_nil_right, List.mem_singleton, Bool.and_eq_true, Bool.not_eq_true']

theorem IsTableFile.isMarked (hf : IsTableFile t o out f) : isMarked f.content = true := by
  cases hf with
  | schema => exact isMarked_schema _
  | accessors => exact isMarked_printFile _
  | module => exact isMarked_printFile _
  | tests => exact isMarked_printFile _

theorem isMarked_of_mem_filesFor (hf : f ∈ filesFor ts o out) : isMarked f.content = true := by
  rcases mem_filesFor_iff.mp hf with ⟨t, -, hf⟩ | ⟨-, rfl⟩
  · exact hf.isMarked
  · exact isMarked_printFile _

/-! ## Places -/

/-- A name of a table is the name of an entry, if it is not empty. -/
theorem isEntryName_of_isName {name : String} (h : IsName name) (hempty : name ≠ "") :
    IsEntryName name := by
  have hpoint : '.' ∉ name.toList := h.not_mem (by decide)
  refine ⟨hempty, ?_, ?_, h.not_mem (by decide)⟩
  · rintro rfl
    simp at hpoint
  · rintro rfl
    simp at hpoint

/-- The steps that lead from the output directory to that of a table. A table without a name
has no directory of its own. -/
def tableSteps (t : Table) : List String :=
  if t.name = "" then [] else [t.name]

/-- A path that is continued by the name of a table goes on by that name, if there is one. -/
theorem components_join_table (out : String) (ht : IsName t.name) :
    Path.components (Path.join out t.name) =
      Path.components out ++ (tableSteps t).map .normal := by
  unfold tableSteps
  split
  next hempty =>
    rw [hempty, List.map_nil, List.append_nil]
    by_cases hout : out = ""
    · rw [hout]
      decide +kernel
    · rw [Path.components_join hout (by decide +kernel)]
      simp [Path.ofPart?]
  next hnamed => exact Path.components_join_name _ (isEntryName_of_isName ht hnamed)

/-- A file in the directory of a table is one more step away. -/
theorem components_join_file (out : String) (ht : IsName t.name) {name : String}
    (hname : IsEntryName name) :
    Path.components (Path.join (Path.join out t.name) name) =
      Path.components out ++ (tableSteps t ++ [name]).map .normal := by
  rw [Path.components_join_name _ hname, components_join_table out ht]
  simp

/-- A file in the directory of a table lies below the output directory. -/
theorem isBelow_join (ht : IsName t.name) {name : String} (hname : IsEntryName name) :
    Path.IsBelow out (Path.join (Path.join out t.name) name) :=
  ⟨tableSteps t ++ [name], by simp, components_join_file out ht hname⟩

theorem IsTableFile.isBelow (ht : IsName t.name) (hf : IsTableFile t o out f) :
    Path.IsBelow out f.path := by
  cases hf with
  | schema => exact isBelow_join ht (by decide)
  | accessors => exact isBelow_join ht (by decide +kernel)
  | module => exact isBelow_join ht (by decide)
  | tests => exact isBelow_join ht (by decide +kernel)

theorem isBelow_of_mem_filesFor (hts : ∀ t ∈ ts, IsName t.name) (hf : f ∈ filesFor ts o out) :
    Path.IsBelow out f.path := by
  rcases mem_filesFor_iff.mp hf with ⟨t, ht, hf⟩ | ⟨-, rfl⟩
  · exact hf.isBelow (hts t ht)
  · exact ⟨["mod.rs"], by simp, Path.components_join_name out (by decide)⟩

/-! ## Source trees -/

theorem generate_eq_ok_iff {d : Disk} {root : String} {listed : List String}
    {files : List OutputFile} :
    generate d root out listed o = .ok files ↔
      ∃ ts, tables d root out listed = .ok ts ∧ files = filesFor ts o out := by
  rw [generate, bind_eq_ok_iff]
  simp only [pure, Except.pure, Except.ok.injEq, eq_comm]

/-- The tables of a source tree are compiled from the entities among its declarations. -/
theorem exists_of_tables {d : Disk} {root : String} {listed : List String}
    (h : tables d root out listed = .ok ts) :
    ∃ set selected, collectTree d root out = .ok set ∧ entities set listed = .ok selected ∧
      List.Forall₂ (fun entity t =>
        Table.compile set ColumnType.defaultTextBound entity = .ok t) selected ts := by
  obtain ⟨set, hset, h⟩ := bind_eq_ok_iff.mp h
  obtain ⟨selected, hselected, h⟩ := bind_eq_ok_iff.mp h
  obtain ⟨compiled, hcompiled, h⟩ := bind_eq_ok_iff.mp h
  obtain ⟨-, -, h⟩ := bind_eq_ok_iff.mp h
  cases h
  exact ⟨set, selected, mapError_eq_ok_iff.mp hset, hselected,
    mapM_eq_ok_iff.mp (mapError_eq_ok_iff.mp hcompiled)⟩

/-- The tables of a source tree have names of tables. -/
theorem isName_of_tables {d : Disk} {root : String} {listed : List String}
    (h : tables d root out listed = .ok ts) {t : Table} (ht : t ∈ ts) : IsName t.name := by
  obtain ⟨set, selected, -, -, hcompiled⟩ := exists_of_tables h
  obtain ⟨i, hi, rfl⟩ := List.mem_iff_getElem.mp ht
  have hcompile := List.forall₂_iff_get.mp hcompiled |>.2 i (hcompiled.length_eq ▸ hi) hi
  obtain ⟨fields, marked, k, -, htable⟩ := Table.compile_eq_ok_iff.mp hcompile
  exact htable.isName_name

/-- Without a path for the output directory no file is emitted. -/
theorem filesFor_of_tables_empty {d : Disk} {root : String} {listed : List String}
    (h : tables d root "" listed = .ok ts) : filesFor ts o "" = [] := by
  obtain ⟨set, selected, hset, hselected, hcompiled⟩ := exists_of_tables h
  obtain ⟨files, -, hset⟩ := bind_eq_ok_iff.mp hset
  have hout : ∀ f : String, Path.startsWith f "" = true := by
    intro f
    have hempty : Path.components "" = [] := by decide +kernel
    rw [Path.startsWith, hempty, List.isPrefixOf_nil_left]
  have hnone : (files.filter fun f => !Path.startsWith f "") = [] := by
    simp [hout]
  rw [hnone] at hset
  cases hset
  have hselected : selected = [] := by
    unfold entities at hselected
    split at hselected
    · cases hselected
    · cases hselected
      rfl
  rw [hselected, List.forall₂_nil_left_iff] at hcompiled
  rw [hcompiled]
  simp [filesFor]

end Command

end Rowsmith
