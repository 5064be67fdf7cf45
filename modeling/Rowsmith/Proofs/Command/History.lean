/-
# Runs one after the other

What a run leaves does not depend on the runs before it. Everything that a run
writes carries the mark and lies below the output directory, so the next run
removes it unless it writes it anew; and a run touches nothing else. So the files
after two runs are those after the second run alone, if the disk had no marked file
below the output directory at first and the first run replaced no file.
-/

import Rowsmith.Proofs.Command.Emitted
import Rowsmith.Proofs.Output.Regeneration

namespace Rowsmith.Command

open Disk Code Output

section

variable {out root : String} {listed : List String} {o : Options} {source : Disk}
  {files : List OutputFile}

theorem isMarked_of_generate (h : generate source root out listed o = .ok files)
    {f : OutputFile} (hf : f ∈ files) : isMarked f.content = true := by
  obtain ⟨ts, -, rfl⟩ := generate_eq_ok_iff.mp h
  exact isMarked_of_mem_filesFor hf

theorem isBelow_of_generate (h : generate source root out listed o = .ok files)
    {f : OutputFile} (hf : f ∈ files) : Path.IsBelow out f.path := by
  obtain ⟨ts, hts, rfl⟩ := generate_eq_ok_iff.mp h
  exact isBelow_of_mem_filesFor (fun t ht => isName_of_tables hts ht) hf

theorem out_ne_empty_of_generate (h : generate source root out listed o = .ok files)
    {f : OutputFile} (hf : f ∈ files) : out ≠ "" := by
  rintro rfl
  obtain ⟨ts, hts, rfl⟩ := generate_eq_ok_iff.mp h
  rw [filesFor_of_tables_empty hts] at hf
  cases hf

/-- The files of a source tree can be brought onto a disk on which nothing below the
output directory carries the mark. -/
theorem regenerable_of_generate {d : Disk} (htree : d.IsTree) (hlists : ListsFiles out)
    (hdirect : IsDirect out) (h : generate source root out listed o = .ok files)
    (hdistinct : (files.map fun f => Path.components f.path).Nodup)
    (hvisible : d.isDirectory out = true ∨ ∀ l content, ¬ IsMarkedBelow d out l content) :
    Regenerable d files out :=
  ⟨htree, hlists, hdirect, hvisible, fun _ hf => isBelow_of_generate h hf, hdistinct⟩

end

section

variable {out : String} {d d₁ d₂ d₃ : Disk} {first second : List OutputFile} {p₁ p₂ p₃ : Plan}

/-- After a run there is an output directory, or nothing below it carries the mark. -/
theorem visible_after (h : Regenerable d first out) (hplan : plan d first out = .ok p₁)
    (hmade : MadeAll first d p₁.changes d₁) (hout : ∀ f ∈ first, out ≠ "") :
    d₁.isDirectory out = true ∨ ∀ l content, ¬ IsMarkedBelow d₁ out l content := by
  cases first with
  | nil =>
      refine .inr fun l content hmarked => ?_
      obtain ⟨f, hf, -⟩ := h.exists_of_isMarkedBelow hplan hmade hmarked
      cases hf
  | cons f first =>
      have hf : f ∈ f :: first := List.mem_cons_self
      have hread := readText_eq_ok_iff.mp (h.readText_eq hplan hmade hf)
      exact .inl (isDirectory_of_isBelow (hout f hf) (h.below f hf) hread.1)

/-- The files after two runs are those after the second alone. -/
theorem file?_eq_of_runs (hclean : ∀ l content, ¬ IsMarkedBelow d out l content)
    (hfree : ∀ f ∈ first, d.file? (Path.place f.path) = none)
    (hmarks : ∀ f ∈ first, isMarked f.content = true)
    (h₁ : Regenerable d first out) (hplan₁ : plan d first out = .ok p₁)
    (hmade₁ : MadeAll first d p₁.changes d₁)
    (h₂ : Regenerable d₁ second out) (hplan₂ : plan d₁ second out = .ok p₂)
    (hmade₂ : MadeAll second d₁ p₂.changes d₂)
    (h₃ : Regenerable d second out) (hplan₃ : plan d second out = .ok p₃)
    (hmade₃ : MadeAll second d p₃.changes d₃) : d₂.file? = d₃.file? := by
  funext l
  by_cases hwritten : ∃ f ∈ second, Path.place f.path = l
  · obtain ⟨f, hf, rfl⟩ := hwritten
    have hread₂ := (readText_eq_ok_iff.mp (h₂.readText_eq hplan₂ hmade₂ hf)).2
    have hread₃ := (readText_eq_ok_iff.mp (h₃.readText_eq hplan₃ hmade₃ hf)).2
    rw [file?_eq_some_iff.mpr hread₂, file?_eq_some_iff.mpr hread₃]
  · have hfresh : ∀ f ∈ second, Path.place f.path ≠ l := fun f hf hl => hwritten ⟨f, hf, hl⟩
    rw [(h₃.file?_eq_of_fresh hplan₃ hmade₃ hfresh).2 fun content => hclean l content]
    by_cases hfirst : ∃ f ∈ first, Path.place f.path = l
    · -- what the first run put here is marked, so the second removes it
      obtain ⟨f, hf, rfl⟩ := hfirst
      have hread := (readText_eq_ok_iff.mp (h₁.readText_eq hplan₁ hmade₁ hf)).2
      have hmarked : IsMarkedBelow d₁ out (Path.place f.path) (.text f.content) :=
        ⟨(h₁.below f hf).isUnder, file?_eq_some_iff.mpr hread, hmarks f hf⟩
      rw [(h₂.file?_eq_of_fresh hplan₂ hmade₂ hfresh).1 _ hmarked, hfree f hf]
    · have hfresh₁ : ∀ f ∈ first, Path.place f.path ≠ l := fun f hf hl => hfirst ⟨f, hf, hl⟩
      have hunmarked : ∀ content, ¬ IsMarkedBelow d₁ out l content := fun content hmarked =>
        hfirst (h₁.exists_of_isMarkedBelow hplan₁ hmade₁ hmarked)
      rw [(h₂.file?_eq_of_fresh hplan₂ hmade₂ hfresh).2 hunmarked,
        (h₁.file?_eq_of_fresh hplan₁ hmade₁ hfresh₁).2 fun content => hclean l content]

end

/-- A run that writes and succeeds brings the disk in line with its files: each of them can
be read at its path, no other file below the output directory carries the mark, whatever
is neither written nor removed is as it was, and the next run has nothing to change. And
the files of one source tree leave no trace when those of another are written after them
into the same directory. -/
theorem regenerated (out : String) :
    (∀ {d d' : Disk} {files : List OutputFile} {mode : Mode} {s : Summary},
      Regenerable d files out → mode.writes = true →
      (apply files out mode).on d = (.ok s, d') →
        (∀ f ∈ files, d'.readText f.path = .ok f.content) ∧
        (∀ l content, IsMarkedBelow d' out l content → ∃ f ∈ files, Path.place f.path = l) ∧
        (∀ l, (∀ f ∈ files, Path.place f.path ≠ l) →
          (∀ content, ¬ IsMarkedBelow d out l content) → d'.file? l = d.file? l) ∧
        plan d' files out = .ok ⟨[], files.length⟩) ∧
    ∀ {source₁ source₂ : Disk} {root₁ root₂ : String} {listed₁ listed₂ : List String}
      {o₁ o₂ : Options} {first second : List OutputFile} {d d₁ d₂ d₃ : Disk} {mode : Mode}
      {s₁ s₂ s₃ : Summary},
      generate source₁ root₁ out listed₁ o₁ = .ok first →
      generate source₂ root₂ out listed₂ o₂ = .ok second →
      (first.map fun f => Path.components f.path).Nodup →
      (second.map fun f => Path.components f.path).Nodup →
      d.IsTree → ListsFiles out → IsDirect out →
      (∀ l content, ¬ IsMarkedBelow d out l content) →
      (∀ f ∈ first, d.file? (Path.place f.path) = none) → mode.writes = true →
      (apply first out mode).on d = (.ok s₁, d₁) →
      (apply second out mode).on d₁ = (.ok s₂, d₂) →
      (apply second out mode).on d = (.ok s₃, d₃) → d₂.file? = d₃.file? := by
  constructor
  · intro d d' files mode s h hmode hrun
    obtain ⟨p, hplan, hmade⟩ := exists_madeAll hmode hrun
    exact ⟨fun f hf => h.readText_eq hplan hmade hf,
      fun l content hmarked => h.exists_of_isMarkedBelow hplan hmade hmarked,
      fun l hfresh hunmarked => (h.file?_eq_of_fresh hplan hmade hfresh).2 hunmarked,
      h.plan_eq hplan hmade⟩
  · intro source₁ source₂ root₁ root₂ listed₁ listed₂ o₁ o₂ first second d d₁ d₂ d₃ mode s₁ s₂ s₃
      hfirst hsecond hdistinct₁ hdistinct₂ htree hlists hdirect hclean hfree hmode hrun₁ hrun₂ hrun₃
    obtain ⟨p₁, hplan₁, hmade₁⟩ := exists_madeAll hmode hrun₁
    obtain ⟨p₂, hplan₂, hmade₂⟩ := exists_madeAll hmode hrun₂
    obtain ⟨p₃, hplan₃, hmade₃⟩ := exists_madeAll hmode hrun₃
    have h₁ := regenerable_of_generate htree hlists hdirect hfirst hdistinct₁ (.inr hclean)
    have hvisible := visible_after h₁ hplan₁ hmade₁ fun f hf => out_ne_empty_of_generate hfirst hf
    exact file?_eq_of_runs hclean hfree (fun f hf => isMarked_of_generate hfirst hf) h₁ hplan₁
      hmade₁ (regenerable_of_generate (hmade₁.isTree htree) hlists hdirect hsecond hdistinct₂ hvisible)
      hplan₂ hmade₂
      (regenerable_of_generate htree hlists hdirect hsecond hdistinct₂ (.inr hclean)) hplan₃ hmade₃

/-- A source tree with one entity. -/
def invoices : Disk :=
  ⟨[(["src"], .directory), (["src", "lib.rs"], .file (.text
    "#[derive(Entity)]\npub struct Invoice \x7b pub id: i32 \x7d\n"))]⟩

/-- A source tree with another entity. -/
def accounts : Disk :=
  ⟨[(["src"], .directory), (["src", "lib.rs"], .file (.text
    "#[derive(Entity)]\npub struct Account \x7b pub id: i64 \x7d\n"))]⟩

/-- The definition of the one table. -/
def invoiceFiles : List OutputFile :=
  [⟨"/out/invoice/schema.sql", "-- " ++ generatedMark ++ "\n\nCREATE TABLE invoice (\n" ++
    "  id INTEGER GENERATED BY DEFAULT AS IDENTITY,\n  PRIMARY KEY (id)\n);\n"⟩]

/-- The definition of the other table. -/
def accountFiles : List OutputFile :=
  [⟨"/out/account/schema.sql", "-- " ++ generatedMark ++ "\n\nCREATE TABLE account (\n" ++
    "  id BIGINT GENERATED BY DEFAULT AS IDENTITY,\n  PRIMARY KEY (id)\n);\n"⟩]

/-- A disk with a directory below the root, and a file in it that is written by hand. -/
def desk : Disk :=
  ⟨[(["/"], .directory), (["/", "out"], .directory),
    (["/", "out", "notes.txt"], .file (.text "by hand\n"))]⟩

theorem regenerated_desk :
    ∃ d₁ d₂ d₃ s₁ s₂ s₃, (apply invoiceFiles "/out" {}).on desk = (.ok s₁, d₁) ∧
      (apply accountFiles "/out" {}).on d₁ = (.ok s₂, d₂) ∧
      (apply accountFiles "/out" {}).on desk = (.ok s₃, d₃) ∧
      plan d₁ invoiceFiles "/out" = .ok ⟨[], 1⟩ ∧ d₂.file? = d₃.file? := by
  have hfirst : generate invoices "src" "/out" [] { crud := false } = .ok invoiceFiles :=
    eq_ok_of_toOption (by decide +kernel)
  have hsecond : generate accounts "src" "/out" [] { crud := false } = .ok accountFiles :=
    eq_ok_of_toOption (by decide +kernel)
  have hdistinct : (invoiceFiles.map fun f => Path.components f.path).Nodup := by
    simp [invoiceFiles]
  have htree : desk.IsTree := isTree_of_entries (by decide +kernel)
  have hlists : ListsFiles "/out" :=
    listsFiles_of_isPlainText (by decide) ⟨by decide, by decide +kernel⟩
  have hdirect : IsDirect "/out" := isDirect_of_parent_not_mem (by decide +kernel)
  have hclean : ∀ l content, ¬ IsMarkedBelow desk "/out" l content :=
    not_isMarkedBelow_of_entries (by decide +kernel) "/out"
  obtain ⟨s₁, hrun₁⟩ := exists_summary desk invoiceFiles "/out"
    [] [⟨.create, "/out/invoice/schema.sql"⟩]
    (by decide +kernel) (by decide +kernel) (by decide +kernel) ⟨by decide +kernel, rfl⟩
  obtain ⟨s₂, hrun₂⟩ := exists_summary
    (((applyChanges invoiceFiles [⟨.create, "/out/invoice/schema.sql"⟩]).on desk).2)
    accountFiles "/out" ["/out/invoice/schema.sql"]
    [⟨.create, "/out/account/schema.sql"⟩, ⟨.remove, "/out/invoice/schema.sql"⟩]
    (by decide +kernel) (by decide +kernel) (by decide +kernel) ⟨by decide +kernel, rfl⟩
  obtain ⟨s₃, hrun₃⟩ := exists_summary desk accountFiles "/out"
    [] [⟨.create, "/out/account/schema.sql"⟩]
    (by decide +kernel) (by decide +kernel) (by decide +kernel) ⟨by decide +kernel, rfl⟩
  refine ⟨_, _, _, s₁, s₂, s₃, hrun₁, hrun₂, hrun₃, ?_, ?_⟩
  · exact ((regenerated "/out").1
      (regenerable_of_generate htree hlists hdirect hfirst hdistinct (.inr hclean)) rfl hrun₁).2.2.2
  · exact (regenerated "/out").2 hfirst hsecond hdistinct (by simp [accountFiles]) htree hlists
      hdirect hclean (by decide +kernel) rfl hrun₁ hrun₂ hrun₃

/-- A disk with marked files in a directory and in one below it. -/
def shelf : Disk :=
  ⟨[(["out"], .directory), (["out", "a.rs"], .file (.text (header ++ "\n"))),
    (["out", "x"], .directory), (["out", "x", "old.rs"], .file (.text (header ++ "\n")))]⟩

/-- A path may lead to the output directory by steps upwards. If it leads there through a
directory that is not there at first, then the marked files are not found and stay. If it
leads through a directory below, then the path breaks off when that directory goes. -/
theorem not_regenerated_by_steps_upwards :
    (ListsFiles "x/../out" ∧ shelf.IsTree ∧ Path.IsBelow "x/../out" "x/../out/a.rs" ∧
      ∃ s d', (apply [⟨"x/../out/a.rs", header ++ "\n"⟩] "x/../out" {}).on shelf = (.ok s, d') ∧
        IsMarkedBelow d' "x/../out" ["out", "x", "old.rs"] (.text (header ++ "\n")) ∧
        plan d' [⟨"x/../out/a.rs", header ++ "\n"⟩] "x/../out" =
          .ok ⟨[⟨.remove, "x/../out/x/old.rs"⟩], 1⟩) ∧
    (ListsFiles "out/x/../../out" ∧ Path.IsBelow "out/x/../../out" "out/x/../../out/a.rs" ∧
      ∃ s d', (apply [⟨"out/x/../../out/a.rs", header ++ "\n"⟩] "out/x/../../out" {}).on shelf =
          (.ok s, d') ∧
        plan d' [⟨"out/x/../../out/a.rs", header ++ "\n"⟩] "out/x/../../out" =
          .ok ⟨[⟨.create, "out/x/../../out/a.rs"⟩], 0⟩) := by
  constructor
  · obtain ⟨s, hrun⟩ := exists_summary shelf
      [⟨"x/../out/a.rs", header ++ "\n"⟩] "x/../out" []
      [⟨.create, "x/../out/a.rs"⟩]
      (by decide +kernel) (by decide +kernel) (by decide +kernel) ⟨by decide +kernel, rfl⟩
    refine ⟨listsFiles_of_isPlainText (by decide) ⟨by decide, by decide +kernel⟩,
      isTree_of_entries (by decide +kernel), ⟨["a.rs"], by decide, by decide +kernel⟩, s, _, hrun,
      ⟨⟨["x", "old.rs"], by decide, by decide, by decide +kernel⟩, by decide +kernel,
        by decide +kernel⟩,
      eq_ok_of_toOption (by decide +kernel)⟩
  · obtain ⟨s, hrun⟩ := exists_summary shelf
      [⟨"out/x/../../out/a.rs", header ++ "\n"⟩] "out/x/../../out"
      ["out/x/../../out/a.rs", "out/x/../../out/x/old.rs"]
      [⟨.remove, "out/x/../../out/x/old.rs"⟩]
      (by decide +kernel) (by decide +kernel) (by decide +kernel) ⟨by decide +kernel, rfl⟩
    exact ⟨listsFiles_of_isPlainText (by decide) ⟨by decide, by decide +kernel⟩,
      ⟨["a.rs"], by decide, by decide +kernel⟩, s, _, hrun, eq_ok_of_toOption (by decide +kernel)⟩

end Rowsmith.Command
