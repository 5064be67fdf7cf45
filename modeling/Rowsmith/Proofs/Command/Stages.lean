/-
# The stages of a run

A run reads its arguments and its settings, collects declarations, selects and
compiles entities, compares the names of their tables and plans its changes. All of
these stages only look at the disk, and each may fail. Changes come last, and only
if neither a report nor a check is asked for. `disk_kept` says what this means for
the disk: it is as it was unless the run has got to its changes.
-/

import Mathlib.Data.List.Nodup
import Rowsmith.Command.Run
import Rowsmith.Proofs.Command.Arguments
import Rowsmith.Proofs.Command.Emitted
import Rowsmith.Proofs.Declaration.Set
import Rowsmith.Proofs.Output.Run

namespace Rowsmith.Command

open Code Disk Output

/-! ## Actions of a run -/

namespace RunAction

variable {α β ε : Type}

/-- What an action of a run answers on a disk, and the disk that it leaves. -/
def on (x : RunAction α) (d : Disk) : Except RunError α × Disk :=
  x.run d

theorem on_bind (x : RunAction α) (f : α → RunAction β) (d : Disk) :
    (x >>= f).on d =
      match x.on d with
      | (.ok a, d') => (f a).on d'
      | (.error e, d') => (.error e, d') := by
  rw [on, on, run_bind_eq]
  rcases x.run d with ⟨_ | _, d'⟩ <;> rfl

@[simp]
theorem on_get (d : Disk) : (get : RunAction Disk).on d = (.ok d, d) :=
  rfl

@[simp]
theorem on_lift (wrap : ε → RunError) (x : Except ε α) (d : Disk) :
    (RunAction.lift wrap x).on d = (x.mapError wrap, d) := by
  cases x <;> rfl

@[simp]
theorem on_adapt (x : Action α) (wrap : ApplyError → RunError) (d : Disk) :
    RunAction.on (x.adapt wrap) d = ((x.on d).1.mapError wrap, (x.on d).2) := by
  rfl

end RunAction

/-! ## Names of tables -/

section

variable {seen before ts : List Table} {first t : Table} {e : GenerationError}

/-- A table that has the name of one before it is refused. -/
theorem checkNames_cons_of_mem (hseen : (seen.map Table.name).Nodup) (hfirst : first ∈ seen)
    (hname : first.name = t.name) :
    checkNames seen (t :: ts) = .error (.sameTable first.entity t.entity t.name) := by
  rw [checkNames]
  cases hfind : seen.find? fun s => s.name == t.name with
  | none => exact absurd hname (by simpa using List.find?_eq_none.mp hfind first hfirst)
  | some s =>
      have hclash : s.name = t.name := by simpa using List.find?_some hfind
      have hsame : s = first := List.inj_on_of_nodup_map hseen (List.mem_of_find?_eq_some hfind)
        hfirst (hclash.trans hname.symm)
      rw [hsame]

/-- A table with a name of its own is passed. -/
theorem checkNames_cons_of_not_mem (h : t.name ∉ seen.map Table.name) :
    checkNames seen (t :: ts) = checkNames (t :: seen) ts := by
  have hfind : (seen.find? fun s => s.name == t.name) = none := by simpa using h
  rw [checkNames, hfind]

/-- Tables with different names are passed. -/
theorem checkNames_append (h : ((before.reverse ++ seen).map Table.name).Nodup) :
    checkNames seen (before ++ ts) = checkNames (before.reverse ++ seen) ts := by
  induction before generalizing seen with
  | nil => rfl
  | cons t before ih =>
      rw [List.reverse_cons, List.append_assoc, List.singleton_append] at h ⊢
      have hapart : t.name ∉ seen.map Table.name := by
        rw [List.map_append] at h
        exact (List.nodup_cons.mp h.of_append_right).1
      rw [List.cons_append, checkNames_cons_of_not_mem hapart, ih h]

/-- Tables are passed exactly if they have different names. -/
theorem checkNames_eq_ok_iff (hseen : (seen.map Table.name).Nodup) :
    checkNames seen ts = .ok () ↔ ((ts.reverse ++ seen).map Table.name).Nodup := by
  induction ts generalizing seen with
  | nil => exact iff_of_true rfl hseen
  | cons t ts ih =>
      rw [List.reverse_cons, List.append_assoc, List.singleton_append]
      by_cases hclash : t.name ∈ seen.map Table.name
      · obtain ⟨first, hfirst, hname⟩ := List.mem_map.mp hclash
        rw [checkNames_cons_of_mem hseen hfirst hname]
        refine iff_of_false nofun fun hdistinct => ?_
        rw [List.map_append] at hdistinct
        exact (List.nodup_cons.mp hdistinct.of_append_right).1 hclash
      · rw [checkNames_cons_of_not_mem hclash]
        exact ih (List.nodup_cons.mpr ⟨hclash, hseen⟩)

theorem checkNames_nil_eq_ok_iff : checkNames [] ts = .ok () ↔ (ts.map Table.name).Nodup := by
  have hnil : (([] : List Table).map Table.name).Nodup := List.nodup_nil
  rw [checkNames_eq_ok_iff hnil, List.append_nil, List.map_reverse, List.nodup_reverse]

/-- A refused table has the name of one before it, and the tables before it have different
names. -/
theorem exists_clash_of_checkNames (hseen : (seen.map Table.name).Nodup)
    (h : checkNames seen ts = .error e) :
    ∃ before second after first, ts = before ++ second :: after ∧
      ((before.reverse ++ seen).map Table.name).Nodup ∧ first ∈ before.reverse ++ seen ∧
      first.name = second.name ∧ e = .sameTable first.entity second.entity second.name := by
  fun_induction checkNames seen ts with
  | case1 => cases h
  | case2 seen t ts s hfind =>
      cases h
      have hname : s.name = t.name := by simpa using List.find?_some hfind
      exact ⟨[], t, ts, s, rfl, hseen, List.mem_of_find?_eq_some hfind, hname, rfl⟩
  | case3 seen t ts hfind ih =>
      have hapart : t.name ∉ seen.map Table.name := by simpa using hfind
      obtain ⟨before, second, after, first, rfl, hdistinct, hfirst, hname, rfl⟩ :=
        ih (List.nodup_cons.mpr ⟨hapart, hseen⟩) h
      exact ⟨t :: before, second, after, first, rfl, by simpa using hdistinct,
        by simpa using hfirst, hname, rfl⟩

/-- The first table is refused that has the name of one before it. -/
theorem checkNames_nil_eq_error_iff :
    checkNames [] ts = .error e ↔ ∃ before second after first,
      ts = before ++ second :: after ∧ (before.map Table.name).Nodup ∧
        first ∈ before ∧ first.name = second.name ∧
        e = .sameTable first.entity second.entity second.name := by
  constructor
  · intro h
    have hnil : (([] : List Table).map Table.name).Nodup := List.nodup_nil
    obtain ⟨before, second, after, first, rfl, hdistinct, hfirst, hname, rfl⟩ :=
      exists_clash_of_checkNames hnil h
    rw [List.append_nil, List.map_reverse, List.nodup_reverse] at hdistinct
    exact ⟨before, second, after, first, rfl, hdistinct, by simpa using hfirst, hname, rfl⟩
  · rintro ⟨before, second, after, first, rfl, hdistinct, hfirst, hname, rfl⟩
    have hseen : ((before.reverse ++ []).map Table.name).Nodup := by
      rwa [List.append_nil, List.map_reverse, List.nodup_reverse]
    rw [checkNames_append hseen]
    exact checkNames_cons_of_mem hseen (by simpa using hfirst) hname

end

/-! ## Generation -/

/-- The stages at which a source tree has no tables, each with its error. -/
inductive Untabled (d : Disk) (root out : String) (listed : List String) :
    GenerationError → Prop where
  /-- The declarations cannot be collected. -/
  | collection {e : SourceTreeError} (herror : collectTree d root out = .error e) :
      Untabled d root out listed (.sources e)
  /-- A listed entity is declared nowhere, or an entity is no struct. -/
  | selection {set : DeclSet} {e : GenerationError} (hset : collectTree d root out = .ok set)
      (herror : entities set listed = .error e) : Untabled d root out listed e
  /-- An entity cannot be compiled, and all before it can. -/
  | compilation {set : DeclSet} {selected : List Decl} {i : Nat} {entity : Decl}
      {e : CompileError} (hset : collectTree d root out = .ok set)
      (hselected : entities set listed = .ok selected) (hentity : selected[i]? = some entity)
      (herror : Table.compile set ColumnType.defaultTextBound entity = .error e)
      (hbefore : ∀ j other, j < i → selected[j]? = some other →
        ∃ t, Table.compile set ColumnType.defaultTextBound other = .ok t) :
      Untabled d root out listed (.compile e)
  /-- All entities can be compiled, and a table has the name of one before it. -/
  | names {set : DeclSet} {selected : List Decl} {before after : List Table}
      {first second : Table} (hset : collectTree d root out = .ok set)
      (hselected : entities set listed = .ok selected)
      (hcompiled : List.Forall₂ (fun entity t =>
        Table.compile set ColumnType.defaultTextBound entity = .ok t) selected
        (before ++ second :: after))
      (hbefore : (before.map Table.name).Nodup) (hfirst : first ∈ before)
      (hname : first.name = second.name) :
      Untabled d root out listed (.sameTable first.entity second.entity second.name)

variable {d : Disk} {root out : String} {listed : List String}

theorem tables_eq_error_iff {e : GenerationError} :
    tables d root out listed = .error e ↔ Untabled d root out listed e := by
  simp only [tables, bind_eq_error_iff, mapError_eq_error_iff, mapError_eq_ok_iff]
  constructor
  · rintro (⟨e, herror, rfl⟩ | ⟨set, hset, herror | ⟨selected, hselected, hrest⟩⟩)
    · exact .collection herror
    · exact .selection hset herror
    · rcases hrest with ⟨e, herror, rfl⟩ | ⟨ts, hts, hclash | ⟨_, _, hdone⟩⟩
      · obtain ⟨i, entity, hentity, herror, hbefore⟩ := mapM_eq_error_iff.mp herror
        exact .compilation hset hselected hentity herror hbefore
      · obtain ⟨before, second, after, first, rfl, hdistinct, hfirst, hname, rfl⟩ :=
          checkNames_nil_eq_error_iff.mp hclash
        exact .names hset hselected (mapM_eq_ok_iff.mp hts) hdistinct hfirst hname
      · cases hdone
  · intro h
    cases h with
    | collection herror => exact .inl ⟨_, herror, rfl⟩
    | selection hset herror => exact .inr ⟨_, hset, .inl herror⟩
    | compilation hset hselected hentity herror hbefore =>
        have hmap := mapM_eq_error_iff.mpr ⟨_, _, hentity, herror, hbefore⟩
        exact .inr ⟨_, hset, .inr ⟨_, hselected, .inl ⟨_, hmap, rfl⟩⟩⟩
    | @names set selected before after first second hset hselected hcompiled hbefore hfirst
        hname =>
        have hclash := checkNames_nil_eq_error_iff.mpr
          ⟨before, second, after, first, rfl, hbefore, hfirst, hname, rfl⟩
        exact .inr ⟨_, hset, .inr ⟨_, hselected, .inr ⟨_, mapM_eq_ok_iff.mpr hcompiled,
          .inl hclash⟩⟩⟩

theorem generate_eq_error_iff {o : Code.Options} {e : GenerationError} :
    generate d root out listed o = .error e ↔ Untabled d root out listed e := by
  rw [← tables_eq_error_iff, generate, bind_eq_error_iff]
  simp [pure, Except.pure]

/-- One entity that cannot be compiled is enough for a source tree to have no tables. -/
theorem exists_untabled {set : DeclSet} {selected : List Decl} {entity : Decl} {e : CompileError}
    (hset : collectTree d root out = .ok set) (hselected : entities set listed = .ok selected)
    (hentity : entity ∈ selected)
    (herror : Table.compile set ColumnType.defaultTextBound entity = .error e) :
    ∃ e, Untabled d root out listed (.compile e) := by
  cases hmap : selected.mapM (Table.compile set ColumnType.defaultTextBound) with
  | error e' =>
      obtain ⟨i, first, hfirst, herror', hbefore⟩ := mapM_eq_error_iff.mp hmap
      exact ⟨e', .compilation hset hselected hfirst herror' hbefore⟩
  | ok ts =>
      obtain ⟨t, ht⟩ := exists_ok_of_mapM hmap hentity
      cases herror.symm.trans ht

/-! ## Runs -/

section

variable {env : Settings.Environment} {arguments : List String} {d : Disk}

/-- The arguments ask for a generation, and with the settings they describe a job. -/
structure Prepares (env : Settings.Environment) (arguments : List String) (d : Disk)
    (a : Arguments) (j : Job) : Prop where
  parsed : Arguments.parse arguments = .ok (.generate a)
  job : job d env a = .ok j

/-- The stages before any change at which a run can fail, each with its error. -/
inductive FailsEarly (env : Settings.Environment) (arguments : List String) (d : Disk) :
    RunError → Prop where
  | arguments {e : ArgumentError} (herror : Arguments.parse arguments = .error e) :
      FailsEarly env arguments d (.arguments e)
  | settings {a : Arguments} {e : SettingsError}
      (hparsed : Arguments.parse arguments = .ok (.generate a)) (herror : job d env a = .error e) :
      FailsEarly env arguments d (.settings e)
  | generation {a : Arguments} {j : Job} {e : GenerationError}
      (hjob : Prepares env arguments d a j)
      (herror : Untabled d j.source j.output j.entities e) :
      FailsEarly env arguments d (.generation e)
  | planning {a : Arguments} {j : Job} {files : List OutputFile} {e : PatternError}
      (hjob : Prepares env arguments d a j)
      (hfiles : generate d j.source j.output j.entities j.options = .ok files)
      (herror : plan d files j.output = .error e) :
      FailsEarly env arguments d (.output (.pattern (patternBelow j.output) e))

/-- The arguments ask for help, or for a report or a check. -/
def IsReadOnly (arguments : List String) : Prop :=
  Arguments.parse arguments = .ok .help ∨ Gives .dryRun arguments ∨ Gives .check arguments

theorem on_perform (j : Job) (d : Disk) :
    (perform j).on d =
      match generate d j.source j.output j.entities j.options with
      | .error e => (.error (.generation e), d)
      | .ok files =>
        ((((Output.apply files j.output j.mode).on d).1.map Summary.report).mapError .output,
          ((Output.apply files j.output j.mode).on d).2) := by
  rw [perform, RunAction.on_bind, RunAction.on_get]
  dsimp only
  rw [RunAction.on_bind, RunAction.on_lift]
  cases generate d j.source j.output j.entities j.options with
  | error e => rfl
  | ok files =>
      dsimp only [Except.mapError]
      rw [RunAction.on_bind, RunAction.on_adapt]
      rcases (Output.apply files j.output j.mode).on d with ⟨_ | _, d'⟩ <;> rfl

theorem on_run (env : Settings.Environment) (arguments : List String) (d : Disk) :
    (run env arguments).on d =
      match Arguments.parse arguments with
      | .error e => (.error (.arguments e), d)
      | .ok .help => (.ok helpText, d)
      | .ok (.generate a) =>
        match job d env a with
        | .error e => (.error (.settings e), d)
        | .ok j => (perform j).on d := by
  rw [run, RunAction.on_bind, RunAction.on_lift]
  cases Arguments.parse arguments with
  | error e => rfl
  | ok request =>
      cases request with
      | help => rfl
      | generate a =>
          dsimp only [Except.mapError]
          rw [RunAction.on_bind, RunAction.on_get]
          dsimp only
          rw [RunAction.on_bind, RunAction.on_lift]
          cases job d env a <;> rfl

theorem mode_of_job {a : Arguments} {j : Job} (h : job d env a = .ok j) :
    j.mode = ⟨a.dryRun, a.check⟩ := by
  obtain ⟨project, -, h⟩ := bind_eq_ok_iff.mp h
  obtain ⟨-, -, h⟩ := bind_eq_ok_iff.mp h
  obtain ⟨options, -, h⟩ := bind_eq_ok_iff.mp h
  cases h
  rfl

/-- A job writes exactly when the arguments have neither of the two flags. -/
theorem writes_iff {a : Arguments} {j : Job} (h : Prepares env arguments d a j) :
    j.mode.writes = true ↔ ¬ IsReadOnly arguments := by
  have hdry := isSet_iff_of_parse (f := .dryRun) h.parsed
  have hcheck := isSet_iff_of_parse (f := .check) h.parsed
  simp only [Flag.isSet] at hdry hcheck
  simp [IsReadOnly, h.parsed, mode_of_job h.job, Mode.writes, ← hdry, ← hcheck]

/-- A run that fails early has the error of the stage for its answer, and leaves the
disk alone. -/
theorem on_run_of_failsEarly {e : RunError} (h : FailsEarly env arguments d e) :
    (run env arguments).on d = (.error e, d) := by
  cases h with
  | arguments herror => simp only [on_run, herror]
  | settings hparsed herror => simp only [on_run, hparsed, herror]
  | generation hjob herror =>
      simp only [on_run, hjob.parsed, hjob.job, on_perform, generate_eq_error_iff.mpr herror]
  | planning hjob hfiles herror =>
      simp only [on_run, hjob.parsed, hjob.job, on_perform, hfiles, on_apply, herror, Except.map,
        Except.mapError]

theorem on_run_of_isReadOnly (h : IsReadOnly arguments) : ((run env arguments).on d).2 = d := by
  rw [on_run]
  split
  next => rfl
  next => rfl
  next a hparsed =>
    split
    next => rfl
    next j hjob =>
      have hmode : j.mode.writes = false := by
        simpa [h] using (writes_iff ⟨hparsed, hjob⟩).not
      rw [on_perform]
      split
      next => rfl
      next files _ => exact on_apply_of_not_writes hmode rfl

/-- A run that is to write and does not fail early gets to the changes of its plan. -/
theorem exists_changes (hwrites : ¬ IsReadOnly arguments)
    (hearly : ∀ e, ¬ FailsEarly env arguments d e) :
    ∃ a j files p, Prepares env arguments d a j ∧
      generate d j.source j.output j.entities j.options = .ok files ∧
      plan d files j.output = .ok p ∧
      (run env arguments).on d =
        ((((applyChanges files p.changes).on d).1.map fun _ => "").mapError .output,
          ((applyChanges files p.changes).on d).2) := by
  cases hparsed : Arguments.parse arguments with
  | error e => exact absurd (.arguments hparsed) (hearly _)
  | ok request =>
      cases request with
      | help => exact absurd (.inl hparsed) hwrites
      | generate a =>
          cases hjob : job d env a with
          | error e => exact absurd (.settings hparsed hjob) (hearly _)
          | ok j =>
              have hprepares : Prepares env arguments d a j := ⟨hparsed, hjob⟩
              cases hfiles : generate d j.source j.output j.entities j.options with
              | error e =>
                  exact absurd (.generation hprepares (generate_eq_error_iff.mp hfiles)) (hearly _)
              | ok files =>
                  cases hplan : plan d files j.output with
                  | error e => exact absurd (.planning hprepares hfiles hplan) (hearly _)
                  | ok p =>
                      have hmode := (writes_iff hprepares).mpr hwrites
                      simp only [Mode.writes, Bool.and_eq_true, Bool.not_eq_true'] at hmode
                      refine ⟨a, j, files, p, hprepares, hfiles, hplan, ?_⟩
                      simp only [on_run, hparsed, hjob, on_perform, hfiles, on_apply, hplan, hmode,
                        Bool.false_eq_true, if_false]
                      rcases (applyChanges files p.changes).on d with ⟨_ | _, d'⟩ <;> rfl

end

/-- A run leaves the disk as it was if it fails at a stage before its changes, one
entity that cannot be compiled being enough whatever the others are, and if it is
asked for help, for a report or for a check. Every other run gets to its changes, so
there are no further stages at which it could stop. -/
theorem disk_kept (env : Settings.Environment) (arguments : List String) (d : Disk) :
    (∀ e, FailsEarly env arguments d e → (run env arguments).on d = (.error e, d)) ∧
      (∀ a j set selected entity e, Prepares env arguments d a j →
        collectTree d j.source j.output = .ok set → entities set j.entities = .ok selected →
        entity ∈ selected → Table.compile set ColumnType.defaultTextBound entity = .error e →
        ∃ e, (run env arguments).on d = (.error (.generation (.compile e)), d)) ∧
      (IsReadOnly arguments → ((run env arguments).on d).2 = d) ∧
      (¬ IsReadOnly arguments → (∀ e, ¬ FailsEarly env arguments d e) →
        ∃ a j files p, Prepares env arguments d a j ∧
          generate d j.source j.output j.entities j.options = .ok files ∧
          plan d files j.output = .ok p ∧
          (run env arguments).on d =
            ((((applyChanges files p.changes).on d).1.map fun _ => "").mapError .output,
              ((applyChanges files p.changes).on d).2)) := by
  refine ⟨fun e h => on_run_of_failsEarly h, ?_, on_run_of_isReadOnly, exists_changes⟩
  intro a j set selected entity e hjob hset hselected hentity herror
  obtain ⟨e, huntabled⟩ := exists_untabled hset hselected hentity herror
  exact ⟨e, on_run_of_failsEarly (.generation hjob huntabled)⟩

/-- A source tree with one file, and what an earlier run has written for it. -/
def yard (source : String) : Disk :=
  ⟨[(["src"], .directory), (["src", "lib.rs"], .file (.text source)),
    (["src", "db"], .directory),
    (["src", "db", "old.sql"], .file (.text ("-- " ++ generatedMark ++ "\n")))]⟩

/-- An entity. -/
def craneSource : String :=
  "#[derive(Entity)] struct Crane \x7b id: i64 \x7d"

/-- The same with one that cannot be compiled. -/
def truckSource : String :=
  craneSource ++ " #[derive(Entity)] struct Truck \x7b id: i64, load: u64 \x7d"

/-- The declarations of both. -/
def yardDecls : DeclSet :=
  .insertAll {}
    [ ⟨⟨"crate", "Crane"⟩, .struct [⟨"id", .primitive .int64, "i64", none, false⟩] true⟩,
      ⟨⟨"crate", "Truck"⟩, .struct
        [ ⟨"id", .primitive .int64, "i64", none, false⟩,
          ⟨"load", .unsupported "u64", "u64", none, false⟩ ] true⟩ ]

/-- A job that writes the definitions of tables only. -/
def yardJob : Job where
  source := "src"
  output := "src/db"
  entities := []
  options := { dialect := .mySql, crud := false, tests := false }
  mode := {}

/-- The definition of the one table. -/
def craneFiles : List OutputFile :=
  [⟨"src/db/crane/schema.sql", "-- " ++ generatedMark ++ "\n\nCREATE TABLE crane (\n" ++
    "  id BIGINT NOT NULL AUTO_INCREMENT,\n  PRIMARY KEY (id)\n);\n"⟩]

theorem prepares_yard (source : String) (h : source ∈ [craneSource, truckSource]) :
    Prepares [] ["--dialect", "mysql"] (yard source) { dialect := some .mySql } yardJob := by
  refine ⟨by decide +kernel, ?_⟩
  rcases List.mem_pair.mp h with rfl | rfl
  · decide +kernel
  · decide +kernel

theorem not_failsEarly_yard (e : RunError) :
    ¬ FailsEarly [] ["--dialect", "mysql"] (yard craneSource) e := by
  obtain ⟨hparsed, hjob⟩ := prepares_yard craneSource (by simp)
  have hgenerate : generate (yard craneSource) "src" "src/db" [] yardJob.options =
      .ok craneFiles :=
    eq_ok_of_toOption (by decide +kernel)
  intro h
  cases h with
  | arguments herror => cases hparsed.symm.trans herror
  | settings hparsed' herror =>
      cases hparsed.symm.trans hparsed'
      cases hjob.symm.trans herror
  | generation hprepares herror =>
      cases hparsed.symm.trans hprepares.parsed
      cases hjob.symm.trans hprepares.job
      cases hgenerate.symm.trans (generate_eq_error_iff.mpr herror)
  | planning hprepares hfiles herror =>
      cases hparsed.symm.trans hprepares.parsed
      cases hjob.symm.trans hprepares.job
      cases hgenerate.symm.trans hfiles
      have hplan : (plan (yard craneSource) craneFiles "src/db").toOption.isSome = true := by
        decide +kernel
      rw [show plan (yard craneSource) craneFiles "src/db" = .error _ from herror] at hplan
      cases hplan

/-- An argument without its value, an entity that cannot be compiled next to one that
can, and a check leave the disk as it was. A run without any of them gets to its
changes. -/
theorem disk_kept_yard :
    (run [] ["--dialect"]).on (yard craneSource) =
        (.error (.arguments (.noValue "--dialect")), yard craneSource) ∧
      (∃ e, (run [] ["--dialect", "mysql"]).on (yard truckSource) =
        (.error (.generation (.compile e)), yard truckSource)) ∧
      ((run [] ["--dialect", "mysql", "--check"]).on (yard craneSource)).2 = yard craneSource ∧
      (∃ a j files p, Prepares [] ["--dialect", "mysql"] (yard craneSource) a j ∧
        generate (yard craneSource) j.source j.output j.entities j.options = .ok files ∧
        plan (yard craneSource) files j.output = .ok p ∧
        (run [] ["--dialect", "mysql"]).on (yard craneSource) =
          ((((applyChanges files p.changes).on (yard craneSource)).1.map fun _ => "").mapError
            .output, ((applyChanges files p.changes).on (yard craneSource)).2)) := by
  have hset : collectTree (yard truckSource) "src" "src/db" = .ok yardDecls :=
    eq_ok_of_toOption (by decide +kernel)
  have hselected : entities yardDecls [] = .ok yardDecls.decls := by decide +kernel
  have hnone : Table.compile yardDecls 255 (yardDecls.decls[1]) =
      .error (.noMapping "Truck" "load" "u64") := by
    decide +kernel
  have hwrites : ¬ IsReadOnly ["--dialect", "mysql"] :=
    (writes_iff (prepares_yard craneSource (by simp))).mp rfl
  exact ⟨(disk_kept [] ["--dialect"] (yard craneSource)).1 _ (.arguments (by decide +kernel)),
    (disk_kept [] ["--dialect", "mysql"] (yard truckSource)).2.1 _ _ _ _ _ _
      (prepares_yard truckSource (by simp)) hset hselected (by simp) hnone,
    (disk_kept [] ["--dialect", "mysql", "--check"] (yard craneSource)).2.2.1
      (.inr (.inr (.afterValue (o := .dialect) (by decide +kernel) (.here [])))),
    (disk_kept [] ["--dialect", "mysql"] (yard craneSource)).2.2.2 hwrites not_failsEarly_yard⟩

end Rowsmith.Command
