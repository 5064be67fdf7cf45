/-
# What a run does to files without the mark

A file whose first line does not carry the mark is written by hand. No run
removes it, and no run that only reports or checks touches it. But a run that
writes compares contents only: whatever stands where a path of the run leads, and
has another content, is replaced. `unmarked_kept_iff` says exactly when a file
without the mark keeps its content, and `unmarked_replaced` is a file that does
not.
-/

import Mathlib.Data.List.Nodup
import Rowsmith.Proofs.Output.Run

namespace Rowsmith.Output

open Disk Code

/-- Whether the content of a file carries the mark of emitted files in its first
line. What is no text carries none. -/
def carriesMark : Content → Bool
  | .text s => isMarked s
  | .binary _ => false

/-! ## Marked files -/

theorem isMarkedFile_iff_carriesMark {d : Disk} {p : String} :
    isMarkedFile d p = true ↔ d.Reaches p ∧
      ∃ content, d.entry? (Path.place p) = some (.file content) ∧ carriesMark content = true := by
  rw [isMarkedFile_iff]
  constructor
  · rintro ⟨s, hs, hmark⟩
    obtain ⟨hreaches, hentry⟩ := readText_eq_ok_iff.mp hs
    exact ⟨hreaches, .text s, hentry, hmark⟩
  · rintro ⟨hreaches, content, hentry, hmark⟩
    cases content with
    | text s => exact ⟨s, readText_eq_ok_iff.mpr ⟨hreaches, hentry⟩, hmark⟩
    | binary bytes => cases hmark

/-- The marked files are the files among the paths that match below a directory. -/
theorem mem_markedFiles {d : Disk} {out q : String} {marked : List String}
    (h : markedFiles d out = .ok marked) (hq : q ∈ marked) : isMarkedFile d q = true := by
  unfold markedFiles at h
  split at h
  · cases hglob : d.glob (patternBelow out) with
    | error e => simp [hglob, Except.map] at h
    | ok paths =>
        simp only [hglob, Except.map, Except.ok.injEq] at h
        subst h
        exact (Bool.and_eq_true_iff.mp (List.mem_filter.mp hq).2).2
  · cases h
    cases hq

/-! ## Changes where a file without the mark stands -/

section

variable {d d' : Disk} {files : List OutputFile} {out : String} {l : Location}
  {content : Content}

/-- What a planned change puts in the place of a file without the mark is the
content of a file of the run. -/
theorem exists_outcome_of_unmarked {p : Plan} (hplan : plan d files out = .ok p)
    (hfile : d.file? l = some content) (hunmarked : carriesMark content = false)
    {c : PlannedChange} (hc : c ∈ p.changes) (hl : Path.place c.path = l) :
    ∃ f ∈ files, Path.place f.path = l ∧ c.outcome files = some (.text f.content) := by
  rcases (mem_changes_iff hplan).mp hc with ⟨f, hf, hchange⟩ | ⟨-, ⟨marked, hmarked, hq⟩, -⟩
  · obtain ⟨hpath, hne, -⟩ := changeFor?_eq_some hchange
    have hsame : Path.same f.path c.path = true := by rw [hpath, Path.same_iff]
    cases hfind : files.find? (fun f => Path.same f.path c.path) with
    | none => exact absurd hsame (List.find?_eq_none.mp hfind f hf)
    | some g =>
        have hg : Path.same g.path c.path = true := by simpa using List.find?_some hfind
        exact ⟨g, List.mem_of_find?_eq_some hfind, (Path.place_eq_of_same hg).trans hl,
          c.outcome_of_ne_remove hne hfind⟩
  · obtain ⟨-, content', hcontent', hmark⟩ :=
      isMarkedFile_iff_carriesMark.mp (mem_markedFiles hmarked hq)
    rw [hl, ← file?_eq_some_iff, hfile] at hcontent'
    obtain rfl := Option.some.inj hcontent'
    rw [hunmarked] at hmark
    cases hmark

/-- The changes that are made leave the file as it is, or put the content of a
file of the run in its place. -/
theorem MadeAll.unmarked_kept_or {p : Plan} {done rest : List PlannedChange}
    (hmade : MadeAll files d done d') (hplan : plan d files out = .ok p)
    (hdone : p.changes = done ++ rest) (hfile : d.file? l = some content)
    (hunmarked : carriesMark content = false) :
    d'.file? l = some content ∨ ∃ f ∈ files, Path.place f.path = l ∧
      .text f.content ≠ content ∧ d'.file? l = some (.text f.content) := by
  rcases hmade.file?_eq_or l with hkept | ⟨c, hc, hl, hvalue⟩
  · exact .inl (hkept.trans hfile)
  · have hmem : c ∈ p.changes := hdone ▸ List.mem_append_left _ hc
    obtain ⟨f, hf, hfl, houtcome⟩ := exists_outcome_of_unmarked hplan hfile hunmarked hmem hl
    rw [houtcome] at hvalue
    by_cases hsame : .text f.content = content
    · exact .inl (hsame ▸ hvalue)
    · exact .inr ⟨f, hf, hfl, hsame, hvalue⟩

/-- If all changes of a plan are made, and no two files of the run lead to one
location, then the location of a file of the run holds its content. -/
theorem MadeAll.file?_place {p : Plan} (hmade : MadeAll files d p.changes d')
    (hplan : plan d files out = .ok p) (hfile : d.file? l = some content)
    (hunmarked : carriesMark content = false)
    (hapart : (files.map fun f => Path.place f.path).Nodup)
    {f : OutputFile} (hf : f ∈ files) (hl : Path.place f.path = l) :
    d'.file? l = some (.text f.content) := by
  have honly : ∀ g ∈ files, Path.place g.path = l → g = f := fun g hg hgl =>
    List.inj_on_of_nodup_map hapart hg hf (hgl.trans hl.symm)
  refine hmade.file?_eq (fun c hc hcl => ?_) ?_
  · obtain ⟨g, hg, hgl, houtcome⟩ := exists_outcome_of_unmarked hplan hfile hunmarked hc hcl
    rw [houtcome, honly g hg hgl]
  · cases hchange : changeFor? d f with
    | none =>
        obtain ⟨-, hentry⟩ := readText_eq_ok_iff.mp (changeFor?_eq_none_iff.mp hchange)
        exact .inr (file?_eq_some_iff.mpr (hl ▸ hentry))
    | some c =>
        have hpath := (changeFor?_eq_some hchange).1
        exact .inl ⟨c, (mem_changes_iff hplan).mpr (.inl ⟨f, hf, hchange⟩), hpath ▸ hl⟩

/-- A file without the mark is never removed. It keeps its content, or the run
writes and one of its files, with another content, leads to the same location and
takes its place. If the run writes and succeeds, and no two of its files lead to
one location, then the file keeps its content exactly if no file of the run with
another content leads to its location. -/
theorem unmarked_kept_iff {mode : Mode} {r : Except ApplyError Summary}
    (hrun : (apply files out mode).on d = (r, d')) (hfile : d.file? l = some content)
    (hunmarked : carriesMark content = false) :
    (d'.file? l = some content ∨ mode.writes = true ∧ ∃ f ∈ files, Path.place f.path = l ∧
        .text f.content ≠ content ∧ d'.file? l = some (.text f.content)) ∧
      (mode.writes = true → (∃ s, r = .ok s) →
        (files.map fun f => Path.place f.path).Nodup →
        (d'.file? l = some content ↔
          ∀ f ∈ files, Path.place f.path = l → .text f.content = content)) := by
  by_cases hmode : mode.writes = true
  · rcases on_apply_of_writes hmode hrun with ⟨p, hplan, rfl, hmade⟩ | ⟨⟨e, rfl⟩, hfailed⟩
    · have hkept := hmade.unmarked_kept_or hplan (List.append_nil _).symm hfile hunmarked
      refine ⟨hkept.imp_right fun hreplaced => ⟨hmode, hreplaced⟩, fun _ _ hapart => ?_⟩
      constructor
      · intro hsame f hf hl
        have hplace := hmade.file?_place hplan hfile hunmarked hapart hf hl
        exact Option.some.inj (hplace.symm.trans hsame)
      · intro hall
        rcases hkept with hkept | ⟨f, hf, hl, hne, -⟩
        · exact hkept
        · exact absurd (hall f hf hl) hne
    · refine ⟨?_, fun _ ⟨s, hs⟩ => nomatch hs⟩
      rcases hfailed with rfl | ⟨p, hplan, done, rest, d₁, hdone, hmade, hbuilt⟩
      · exact .inl hfile
      · rw [hbuilt.file?_eq]
        exact (hmade.unmarked_kept_or hplan hdone hfile hunmarked).imp_right
          fun hreplaced => ⟨hmode, hreplaced⟩
  · have hsame := on_apply_of_not_writes (by simpa using hmode) hrun
    exact ⟨.inl (hsame ▸ hfile), fun h => absurd h hmode⟩

end

/-- A disk with a file that is written by hand where a run wants to write. -/
def workshop : Disk :=
  ⟨[(["out"], .directory), (["out", "notes.rs"], .file (.text "// mine\n")),
    (["out", "mod.rs"], .file (.text "pub mod notes;\n"))]⟩

/-- A run that writes one of its files anew. -/
def workshopFiles : List OutputFile :=
  [⟨"out/mod.rs", header ++ "\n\npub mod account;\n"⟩]

theorem unmarked_kept_iff_workshop :
    (((apply workshopFiles "out" {}).on workshop).2.file? ["out", "notes.rs"] =
        some (.text "// mine\n") ↔
      ∀ f ∈ workshopFiles, Path.place f.path = ["out", "notes.rs"] →
        .text f.content = Content.text "// mine\n") ∧
      ((apply workshopFiles "out" {}).on workshop).2.file? ["out", "notes.rs"] =
        some (.text "// mine\n") := by
  have hsucceeds : ((apply workshopFiles "out" {}).on workshop).1.toOption.isSome = true := by
    decide +kernel
  have hfile : workshop.file? ["out", "notes.rs"] = some (.text "// mine\n") := by
    decide +kernel
  rcases hrun : (apply workshopFiles "out" {}).on workshop with ⟨r, d'⟩
  rw [hrun] at hsucceeds
  have hok : ∃ s, r = .ok s := by
    cases r with
    | ok s => exact ⟨s, rfl⟩
    | error e => cases hsucceeds
  have hkept := (unmarked_kept_iff hrun hfile (by decide +kernel)).2 (by decide) hok
    (by simp [workshopFiles])
  exact ⟨hkept, hkept.mpr (by decide +kernel)⟩

/-- The run replaces a file that is written by hand, and succeeds. -/
theorem unmarked_replaced :
    carriesMark (.text "pub mod notes;\n") = false ∧
      workshop.file? ["out", "mod.rs"] = some (.text "pub mod notes;\n") ∧
      ((apply workshopFiles "out" {}).on workshop).2.file? ["out", "mod.rs"] ≠
        some (.text "pub mod notes;\n") := by
  decide +kernel

end Rowsmith.Output
