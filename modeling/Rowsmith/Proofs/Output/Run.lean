/-
# What a run changes

A run plans its changes and makes them one after the other. `Made` says what one
change does to a disk: a file is written where its path leads, or a file is taken
away, and with it a directory that is left bare. `MadeAll` follows a list of
changes, and a run leaves what its first changes made, all of them if it succeeds.
On files alone a change is an update at one location, so a location holds in the
end what the last change there left.
-/

import Rowsmith.Output.Apply
import Rowsmith.Proofs.Disk.Edit

namespace Rowsmith.Output

open Disk Code

/-! ## Plans -/

theorem changeFor?_eq_none_iff {d : Disk} {f : OutputFile} :
    changeFor? d f = none ↔ d.readText f.path = .ok f.content := by
  unfold changeFor?
  cases d.readText f.path with
  | error e => simp
  | ok text => by_cases htext : text = f.content <;> simp [htext]

theorem changeFor?_eq_some {d : Disk} {f : OutputFile} {c : PlannedChange}
    (h : changeFor? d f = some c) :
    c.path = f.path ∧ c.change ≠ .remove ∧ d.readText f.path ≠ .ok f.content := by
  have hne : d.readText f.path ≠ .ok f.content := by
    rw [ne_eq, ← changeFor?_eq_none_iff, h]
    simp
  unfold changeFor? at h
  split at h
  · split at h
    · cases h
    · cases h
      exact ⟨rfl, by simp, hne⟩
  · cases h
    exact ⟨rfl, by simp, hne⟩

theorem isMarkedFile_iff {d : Disk} {p : String} :
    isMarkedFile d p = true ↔ ∃ s, d.readText p = .ok s ∧ isMarked s = true := by
  unfold isMarkedFile
  cases d.readText p <;> simp [Except.toOption]

/-- The stale files: those that carry the mark and that the run does not write. -/
theorem plan_eq_ok_iff {d : Disk} {files : List OutputFile} {out : String} {p : Plan} :
    plan d files out = .ok p ↔ ∃ marked, markedFiles d out = .ok marked ∧
      p = ⟨(files.filterMap (changeFor? d) ++
          (marked.filter fun q => !files.any fun f => Path.same f.path q).map
            (PlannedChange.mk .remove)).mergeSort fun a b => Path.notAfter a.path b.path,
        files.length - (files.filterMap (changeFor? d)).length⟩ := by
  unfold plan
  rw [bind_eq_ok_iff]
  constructor
  · rintro ⟨marked, hmarked, hp⟩
    cases hp
    exact ⟨marked, hmarked, rfl⟩
  · rintro ⟨marked, hmarked, rfl⟩
    exact ⟨marked, hmarked, rfl⟩

/-- The changes of a plan: those that files of the run ask for, and the removal
of marked files that the run does not write. -/
theorem mem_changes_iff {d : Disk} {files : List OutputFile} {out : String} {p : Plan}
    (h : plan d files out = .ok p) {c : PlannedChange} :
    c ∈ p.changes ↔ (∃ f ∈ files, changeFor? d f = some c) ∨
      c.change = .remove ∧ (∃ marked, markedFiles d out = .ok marked ∧ c.path ∈ marked) ∧
        ∀ f ∈ files, Path.same f.path c.path = false := by
  obtain ⟨marked, hmarked, rfl⟩ := plan_eq_ok_iff.mp h
  obtain ⟨change, path⟩ := c
  simp only [List.mem_mergeSort, List.mem_append, List.mem_filterMap, List.mem_map,
    List.mem_filter, PlannedChange.mk.injEq, hmarked, Except.ok.injEq, exists_eq_left',
    Bool.not_eq_true', List.any_eq_false, Bool.not_eq_true]
  constructor
  · rintro (hwritten | ⟨q, ⟨hq, hstale⟩, rfl, rfl⟩)
    · exact .inl hwritten
    · exact .inr ⟨rfl, hq, hstale⟩
  · rintro (hwritten | ⟨rfl, hq, hstale⟩)
    · exact .inl hwritten
    · exact .inr ⟨path, ⟨hq, hstale⟩, rfl, rfl⟩

/-! ## Single changes -/

/-- The disk `d'` is `d` after the file at the path `p` is gone and nothing else
was left in its directory, or without that. -/
def Cleared (d : Disk) (p : String) (d' : Disk) : Prop :=
  d' = d ∨ ∃ q, Path.parent? p = some q ∧ d.entry? (Path.place q) = some .directory ∧
    Edit d d' (Path.place q) none

/-- The disk `d'` is `d` after a change that a run with the given files makes. -/
inductive Made (files : List OutputFile) (d : Disk) (c : PlannedChange) (d' : Disk) : Prop
  /-- A file of the run is written, in a directory that is made if need be. -/
  | written (f : OutputFile) (d₁ : Disk) (change : c.change ≠ .remove)
      (found : files.find? (fun f => Path.same f.path c.path) = some f) (built : Built d d₁)
      (edit : Edit d₁ d' (Path.place f.path) (some (.file (.text f.content))))
      (free : Disk.entry? d₁ (Path.place f.path) ≠ some .directory) (reaches : d'.Reaches f.path)
  /-- A file is removed, and its directory if that is bare then. -/
  | removed (content : Content) (d₁ : Disk) (change : c.change = .remove)
      (found : d.entry? (Path.place c.path) = some (.file content))
      (edit : Edit d d₁ (Path.place c.path) none) (cleared : Cleared d₁ c.path d')

/-- What a change leaves where its path leads. -/
def PlannedChange.outcome (files : List OutputFile) (c : PlannedChange) : Option Content :=
  match c.change with
  | .remove => none
  | .create | .update =>
    (files.find? fun f => Path.same f.path c.path).map fun f => .text f.content

theorem PlannedChange.outcome_of_ne_remove {files : List OutputFile} {c : PlannedChange}
    {f : OutputFile} (h : c.change ≠ .remove)
    (hfound : files.find? (fun f => Path.same f.path c.path) = some f) :
    c.outcome files = some (.text f.content) := by
  unfold outcome
  split
  next hremove => exact absurd hremove h
  all_goals rw [hfound]; rfl

namespace Cleared

variable {d d' : Disk} {p : String}

theorem file?_eq (h : Cleared d p d') : d'.file? = d.file? := by
  obtain rfl | ⟨q, -, hdirectory, hedit⟩ := h
  · rfl
  · exact hedit.file?_eq_self (by simp [hdirectory]) rfl

theorem isTree (h : Cleared d p d') (htree : d.IsTree) : d'.IsTree := by
  obtain rfl | ⟨q, -, -, hedit⟩ := h
  · exact htree
  · exact hedit.isTree htree

end Cleared

namespace Made

variable {files : List OutputFile} {d d' : Disk} {c : PlannedChange}

/-- On files a change is an update where its path leads. -/
theorem file?_eq (h : Made files d c d') :
    d'.file? = Function.update d.file? (Path.place c.path) (c.outcome files) := by
  cases h with
  | written f d₁ change found built edit free reaches =>
      have hsame : Path.same f.path c.path = true := by simpa using List.find?_some found
      have hplace : Path.place f.path = Path.place c.path := Path.place_eq_of_same hsame
      rw [edit.file?_eq, built.file?_eq, hplace, c.outcome_of_ne_remove change found]
      rfl
  | removed content d₁ change found edit cleared =>
      have hnone : c.outcome files = none := by simp [PlannedChange.outcome, change]
      rw [cleared.file?_eq, edit.file?_eq, hnone]
      rfl

theorem isTree (h : Made files d c d') (htree : d.IsTree) : d'.IsTree := by
  cases h with
  | written f d₁ change found built edit free reaches => exact edit.isTree (built.isTree htree)
  | removed content d₁ change found edit cleared => exact cleared.isTree (edit.isTree htree)

end Made

/-! ## Lists of changes -/

/-- The disk `d'` is `d` after changes that are made in order. -/
inductive MadeAll (files : List OutputFile) : Disk → List PlannedChange → Disk → Prop
  | nil (d : Disk) : MadeAll files d [] d
  | cons {d d₁ d' : Disk} {c : PlannedChange} {cs : List PlannedChange} :
      Made files d c d₁ → MadeAll files d₁ cs d' → MadeAll files d (c :: cs) d'

namespace MadeAll

variable {files : List OutputFile} {d d' : Disk} {cs : List PlannedChange}

theorem isTree (h : MadeAll files d cs d') (htree : d.IsTree) : d'.IsTree := by
  induction h with
  | nil d => exact htree
  | cons hmade _ ih => exact ih (hmade.isTree htree)

/-- A location holds what all changes there leave, if there is one or if it held
that before. -/
theorem file?_eq (h : MadeAll files d cs d') {l : Location} {v : Option Content}
    (hall : ∀ c ∈ cs, Path.place c.path = l → c.outcome files = v)
    (hsome : (∃ c ∈ cs, Path.place c.path = l) ∨ d.file? l = v) : d'.file? l = v := by
  induction h with
  | nil d => exact hsome.resolve_left (by simp)
  | @cons d d₁ d' c cs hmade _ ih =>
      rw [List.forall_mem_cons] at hall
      refine ih hall.2 ?_
      rw [hmade.file?_eq]
      by_cases hc : Path.place c.path = l
      · right
        rw [hc, Function.update_self, hall.1 hc]
      · rw [Function.update_of_ne (Ne.symm hc)]
        rw [List.exists_mem_cons_iff] at hsome
        exact hsome.imp_left fun hsome => hsome.resolve_left hc

/-- Where no change is made a location holds what it held. -/
theorem file?_eq_self (h : MadeAll files d cs d') {l : Location}
    (hnone : ∀ c ∈ cs, Path.place c.path ≠ l) : d'.file? l = d.file? l :=
  h.file?_eq (fun c hc hl => absurd hl (hnone c hc)) (.inr rfl)

/-- A location holds what it held, or what one of the changes there leaves. -/
theorem file?_eq_or (h : MadeAll files d cs d') (l : Location) :
    d'.file? l = d.file? l ∨
      ∃ c ∈ cs, Path.place c.path = l ∧ d'.file? l = c.outcome files := by
  induction h with
  | nil d => exact .inl rfl
  | @cons d d₁ d' c cs hmade _ ih =>
      rcases ih with hkept | ⟨c', hc', hl, hv⟩
      · by_cases hc : Path.place c.path = l
        · refine .inr ⟨c, List.mem_cons_self, hc, ?_⟩
          rw [hkept, hmade.file?_eq, hc, Function.update_self]
        · rw [hkept, hmade.file?_eq, Function.update_of_ne (Ne.symm hc)]
          exact .inl rfl
      · exact .inr ⟨c', List.mem_cons_of_mem _ hc', hl, hv⟩

end MadeAll

/-! ## Actions -/

namespace Action

variable {α β : Type}

/-- What an action answers on a disk, and the disk that it leaves. -/
def on (x : Action α) (d : Disk) : Except ApplyError α × Disk :=
  x.run d

theorem on_bind (x : Action α) (f : α → Action β) (d : Disk) :
    (x >>= f).on d =
      match x.on d with
      | (.ok a, d') => (f a).on d'
      | (.error e, d') => (.error e, d') := by
  rw [on, on, run_bind_eq]
  rcases x.run d with ⟨_ | _, d'⟩ <;> rfl

@[simp]
theorem on_get (d : Disk) : (get : Action Disk).on d = (.ok d, d) :=
  rfl

@[simp]
theorem on_change (e : Failure → ApplyError) (next : Disk → Except Failure Disk) (d : Disk) :
    (Action.change e next).on d =
      match next d with
      | .ok d' => (.ok (), d')
      | .error failure => (.error (e failure), d) := by
  unfold change
  rw [on_bind]
  show (match next d with
    | .ok d => set d
    | .error failure => throw (e failure) : Action Unit).on d = _
  cases next d <;> rfl

end Action

/-- A file that is written stands where its path leads. If it cannot be written
then directories may have been made for it. -/
theorem on_writeFile {path content : String} {d d' : Disk} {r : Except ApplyError Unit}
    (h : (writeFile path content).on d = (r, d')) :
    (r = .ok () ∧ ∃ d₁, Built d d₁ ∧
        Edit d₁ d' (Path.place path) (some (.file (.text content))) ∧
        Disk.entry? d₁ (Path.place path) ≠ some .directory ∧ d'.Reaches path) ∨
      (∃ e, r = .error e) ∧ Built d d' := by
  unfold writeFile at h
  split at h
  next directory hdirectory =>
    rw [Action.on_bind, Action.on_change] at h
    cases hmake : d.makeDirectories directory with
    | error e =>
        simp only [hmake] at h
        cases h
        exact .inr ⟨⟨_, rfl⟩, .refl⟩
    | ok d₁ =>
        have hbuilt := built_of_makeDirectories hmake
        simp only [hmake, Action.on_change] at h
        cases hreplace : d₁.replaceFile path (.text content) with
        | error e =>
            simp only [hreplace] at h
            cases h
            exact .inr ⟨⟨_, rfl⟩, hbuilt⟩
        | ok d₂ =>
            simp only [hreplace] at h
            cases h
            exact .inl ⟨rfl, _, hbuilt, edit_of_replaceFile hreplace⟩
  next =>
    cases h
    exact .inr ⟨⟨_, rfl⟩, .refl⟩

/-- A file that is removed was where its path leads. If it cannot be removed then
nothing changes. -/
theorem on_removeFile {path : String} {d d' : Disk} {r : Except ApplyError Unit}
    (h : (removeFile path).on d = (r, d')) :
    (r = .ok () ∧ ∃ content d₁, d.entry? (Path.place path) = some (.file content) ∧
        Edit d d₁ (Path.place path) none ∧ Cleared d₁ path d') ∨
      (∃ e, r = .error e) ∧ d' = d := by
  unfold removeFile at h
  rw [Action.on_bind, Action.on_change] at h
  cases hremove : d.removeFile path with
  | error e =>
      simp only [hremove] at h
      cases h
      exact .inr ⟨⟨_, rfl⟩, rfl⟩
  | ok d₁ =>
      obtain ⟨hedit, content, hcontent⟩ := edit_of_removeFile hremove
      simp only [hremove] at h
      split at h
      next directory hdirectory =>
        cases h
        refine .inl ⟨rfl, content, d₁, hcontent, hedit, ?_⟩
        rcases edit_of_removeBareDirectory d₁ directory with hsame | ⟨hbare, hbedit⟩
        · exact .inl hsame
        · exact .inr ⟨directory, hdirectory, hbare, hbedit⟩
      next =>
        cases h
        exact .inl ⟨rfl, content, _, hcontent, hedit, .inl rfl⟩

/-- A change that succeeds is made; one that fails has at most made directories. -/
theorem on_applyChange {files : List OutputFile} {c : PlannedChange} {d d' : Disk}
    {r : Except ApplyError Unit} (h : (applyChange files c).on d = (r, d')) :
    r = .ok () ∧ Made files d c d' ∨ (∃ e, r = .error e) ∧ Built d d' := by
  unfold applyChange at h
  split at h
  next hremove =>
    rcases on_removeFile h with ⟨hr, content, d₁, hcontent, hedit, hcleared⟩ | ⟨hr, rfl⟩
    · exact .inl ⟨hr, .removed content d₁ hremove hcontent hedit hcleared⟩
    · exact .inr ⟨hr, .refl⟩
  all_goals
    next hchange =>
      split at h
      next f hf =>
        rcases on_writeFile h with ⟨hr, d₁, hbuilt, hedit, hfree, hreaches⟩ | hfailed
        · exact .inl ⟨hr, .written f d₁ (by simp [hchange]) hf hbuilt hedit hfree hreaches⟩
        · exact .inr hfailed
      next =>
        cases h
        exact .inr ⟨⟨_, rfl⟩, .refl⟩

/-- Changes that are applied in order are made up to the first that fails. -/
theorem on_applyChanges {files : List OutputFile} {cs : List PlannedChange} {d d' : Disk}
    {r : Except ApplyError Unit} (h : (applyChanges files cs).on d = (r, d')) :
    r = .ok () ∧ MadeAll files d cs d' ∨
      (∃ e, r = .error e) ∧
        ∃ done rest d₁, cs = done ++ rest ∧ MadeAll files d done d₁ ∧ Built d₁ d' := by
  induction cs generalizing d with
  | nil =>
      cases h
      exact .inl ⟨rfl, .nil _⟩
  | cons c cs ih =>
      rw [applyChanges, Action.on_bind] at h
      rcases hc : (applyChange files c).on d with ⟨rc, d₁⟩
      rw [hc] at h
      rcases on_applyChange hc with ⟨rfl, hmade⟩ | ⟨⟨e, rfl⟩, hbuilt⟩
      · rcases ih h with ⟨hr, hall⟩ | ⟨hr, done, rest, d₂, rfl, hall, hbuilt⟩
        · exact .inl ⟨hr, .cons hmade hall⟩
        · exact .inr ⟨hr, c :: done, rest, d₂, rfl, .cons hmade hall, hbuilt⟩
      · cases h
        exact .inr ⟨⟨e, rfl⟩, [], c :: cs, _, rfl, .nil _, hbuilt⟩

/-- What a run answers and leaves: a report or a check leaves the disk alone, and
otherwise the changes of the plan are made. -/
theorem on_apply (files : List OutputFile) (out : String) (mode : Mode) (d : Disk) :
    (apply files out mode).on d =
      match plan d files out with
      | .error e => (.error (.pattern (patternBelow out) e), d)
      | .ok p =>
        if mode.dryRun then (.ok ⟨p, false, p.report out⟩, d)
        else if mode.check then
          if p.isClean then (.ok ⟨p, false, ""⟩, d)
          else (.error (.outOfDate (p.count .create) (p.count .update) (p.count .remove)), d)
        else (((applyChanges files p.changes).on d).1.map fun _ => ⟨p, true, ""⟩,
          ((applyChanges files p.changes).on d).2) := by
  rw [apply, Action.on_bind, Action.on_get]
  dsimp only
  cases plan d files out with
  | error e => rfl
  | ok p =>
      dsimp only
      split_ifs
      · rfl
      · rfl
      · rfl
      · rw [Action.on_bind]
        rcases (applyChanges files p.changes).on d with ⟨_ | _, d'⟩ <;> rfl

/-- Whether a run makes its changes. -/
def Mode.writes (mode : Mode) : Bool :=
  !mode.dryRun && !mode.check

/-- A run that makes its changes makes those of its plan, all of them if it
succeeds. If it fails then some of the first have been made. -/
theorem on_apply_of_writes {files : List OutputFile} {out : String} {mode : Mode} {d d' : Disk}
    {r : Except ApplyError Summary} (hmode : mode.writes = true)
    (h : (apply files out mode).on d = (r, d')) :
    (∃ p, plan d files out = .ok p ∧ r = .ok ⟨p, true, ""⟩ ∧ MadeAll files d p.changes d') ∨
      (∃ e, r = .error e) ∧ (d' = d ∨ ∃ p, plan d files out = .ok p ∧
        ∃ done rest d₁, p.changes = done ++ rest ∧ MadeAll files d done d₁ ∧ Built d₁ d') := by
  simp only [Mode.writes, Bool.and_eq_true, Bool.not_eq_true'] at hmode
  rw [on_apply] at h
  cases hplan : plan d files out with
  | error e =>
      simp only [hplan] at h
      cases h
      exact .inr ⟨⟨_, rfl⟩, .inl rfl⟩
  | ok p =>
      simp only [hplan, hmode.1, hmode.2, Bool.false_eq_true, if_false] at h
      rcases hall : (applyChanges files p.changes).on d with ⟨rc, d₁⟩
      rw [hall] at h
      cases h
      rcases on_applyChanges hall with ⟨rfl, hmade⟩ | ⟨⟨e, rfl⟩, hdone⟩
      · exact .inl ⟨p, rfl, rfl, hmade⟩
      · exact .inr ⟨⟨e, rfl⟩, .inr ⟨p, rfl, hdone⟩⟩

/-- A run that writes and succeeds makes all changes of its plan. -/
theorem exists_madeAll {files : List OutputFile} {out : String} {mode : Mode} {d d' : Disk}
    {s : Summary} (hmode : mode.writes = true) (h : (apply files out mode).on d = (.ok s, d')) :
    ∃ p, plan d files out = .ok p ∧ MadeAll files d p.changes d' := by
  rcases on_apply_of_writes hmode h with ⟨p, hplan, -, hmade⟩ | ⟨⟨e, he⟩, -⟩
  · exact ⟨p, hplan, hmade⟩
  · cases he

/-- Changes that stand in the order of their paths as they are found are planned so. -/
theorem plan_eq_of_sorted (d : Disk) (files : List OutputFile) (out : String)
    (marked : List String) (changes : List PlannedChange)
    (hmarked : (markedFiles d out).toOption = some marked)
    (hchanges : files.filterMap (changeFor? d) ++
      (marked.filter fun q => !files.any fun f => Path.same f.path q).map
        (PlannedChange.mk .remove) = changes)
    (hsorted : changes.Pairwise fun a b => Path.notAfter a.path b.path) :
    plan d files out = .ok ⟨changes, files.length - (files.filterMap (changeFor? d)).length⟩ := by
  refine plan_eq_ok_iff.mpr ⟨marked, eq_ok_of_toOption hmarked, ?_⟩
  rw [hchanges, List.mergeSort_of_pairwise hsorted]

/-- A run succeeds if its changes, as they are found, stand in the order of their paths
and can be made. -/
theorem exists_summary (d : Disk) {d' : Disk} (files : List OutputFile) (out : String)
    (marked : List String) (changes : List PlannedChange)
    (hmarked : (markedFiles d out).toOption = some marked)
    (hchanges : files.filterMap (changeFor? d) ++
      (marked.filter fun q => !files.any fun f => Path.same f.path q).map
        (PlannedChange.mk .remove) = changes)
    (hsorted : changes.Pairwise fun a b => Path.notAfter a.path b.path)
    (hmade : ((applyChanges files changes).on d).1.toOption.isSome = true ∧
      ((applyChanges files changes).on d).2 = d') :
    ∃ s, (apply files out {}).on d = (.ok s, d') := by
  have hplan := plan_eq_of_sorted d files out marked changes hmarked hchanges hsorted
  rcases hall : (applyChanges files changes).on d with ⟨r, d₁⟩
  rw [hall] at hmade
  obtain ⟨hr, rfl⟩ := hmade
  cases r with
  | error e => cases hr
  | ok u =>
      refine ⟨⟨⟨changes, files.length - (files.filterMap (changeFor? d)).length⟩, true, ""⟩, ?_⟩
      simp only [on_apply, hplan, Bool.false_eq_true, if_false, hall]
      rfl

/-- A run that makes no changes leaves the disk as it was. -/
theorem on_apply_of_not_writes {files : List OutputFile} {out : String} {mode : Mode} {d d' : Disk}
    {r : Except ApplyError Summary} (hmode : mode.writes = false)
    (h : (apply files out mode).on d = (r, d')) : d' = d := by
  rw [on_apply] at h
  split at h
  · cases h
    rfl
  · split_ifs at h with hdry hcheck hclean
    · cases h
      rfl
    · cases h
      rfl
    · cases h
      rfl
    · simp [Mode.writes, hdry, hcheck] at hmode

end Rowsmith.Output
