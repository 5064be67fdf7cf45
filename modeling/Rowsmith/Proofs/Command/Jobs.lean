/-
# Jobs

A run generates for a job: with the options of settings that break no rule, and for
two directories. Arguments that set a dialect or a context change the settings before
the rules are checked again, so the options of every job are consistent:
`options_consistent`. Arguments that name a directory take the place of the one in the
settings, and no rule is about them: `isBlank_directories_iff` says which of them are
blank.
-/

import Rowsmith.Proofs.Command.Groups
import Rowsmith.Proofs.Command.Stages
import Rowsmith.Proofs.Disk.Path
import Rowsmith.Proofs.Settings.Rules

namespace Rowsmith.Command

open Disk

variable {env : Settings.Environment} {arguments : List String} {d : Disk} {a : Arguments}
  {j : Job} {gs : List Group} {project : Project} {s : Settings} {e : SettingsError}
  {p q : String}

/-! ## Settings of a job -/

theorem ofText_name (dialect : Dialect) : Dialect.ofText dialect.name = .ok dialect := by
  cases dialect <;> decide +kernel

/-- What arguments change in settings, and that they change nothing else. -/
theorem override_eq (a : Arguments) (s : Settings) :
    override a s = { s with
      output := { s.output with
        dialect := a.dialect.elim s.output.dialect Dialect.name
        crud := s.output.crud && decide (a.dialect ≠ some .mySql)
        tests := s.output.tests && decide (a.dialect ≠ some .mySql) }
      access := { s.access with
        connection := if a.context then .context else s.access.connection } } := by
  unfold override
  cases a.context <;> rcases a.dialect with _ | _ | _ <;> simp

/-- Settings that only have schemas break at most one rule that they did not break
before: the one about the type of connections. -/
theorem breaks_override_iff (hdialect : a.dialect = some .mySql) (hvalid : s.validate = .ok ()) :
    (override a s).Breaks e ↔
      e = .emptyClient ∧ a.context = true ∧ Text.isBlankText s.access.contextClient = true := by
  have hrules := Settings.validate_eq_ok_iff.mp hvalid
  rw [override_eq, hdialect]
  constructor
  · intro h
    cases h with
    | version hversion => exact absurd (.version hversion) (hrules _)
    | emptySource hblank => exact absurd (.emptySource hblank) (hrules _)
    | emptyEntity hname hblank => exact absurd (.emptyEntity hname hblank) (hrules _)
    | emptyOutput hblank => exact absurd (.emptyOutput hblank) (hrules _)
    | noRows hrows => exact absurd (.noRows hrows) (hrules _)
    | dialect hunknown => cases (ofText_name .mySql).symm.trans hunknown
    | schemaOnly _ hmore => simp at hmore
    | testsAlone htests _ => simp at htests
    | emptyClient hcontext hblank =>
        by_cases hset : a.context
        · exact ⟨rfl, hset, hblank⟩
        · have hkept : s.access.connection = .context := by simpa [hset] using hcontext
          exact absurd (.emptyClient hkept hblank) (hrules _)
    | testClient _ htests _ => simp at htests
  · rintro ⟨rfl, hset, hblank⟩
    exact .emptyClient (by simp [hset]) hblank

theorem job_eq_ok_iff :
    job d env a = .ok j ↔ ∃ project, Project.discover d env a.config = .ok project ∧
      (override a project.settings).validate = .ok () ∧
      (override a project.settings).options = .ok j.options ∧
      j.source = a.source.getD project.sourceDirectory ∧
      j.output = a.output.getD project.outputDirectory ∧
      j.entities = project.settings.input.entities ∧ j.mode = ⟨a.dryRun, a.check⟩ := by
  have hentities : ∀ s, (override a s).input.entities = s.input.entities := by
    intro s
    rw [override_eq]
  rw [job, bind_eq_ok_iff]
  constructor
  · rintro ⟨project, hproject, h⟩
    obtain ⟨⟨⟩, hvalid, h⟩ := bind_eq_ok_iff.mp h
    obtain ⟨options, hoptions, h⟩ := bind_eq_ok_iff.mp h
    cases h
    exact ⟨project, hproject, hvalid, hoptions, rfl, rfl, hentities _, rfl⟩
  · obtain ⟨source, output, entities, options, mode⟩ := j
    rintro ⟨project, hproject, hvalid, hoptions, rfl, rfl, rfl, rfl⟩
    refine ⟨project, hproject, bind_eq_ok_iff.mpr ⟨(), hvalid, ?_⟩⟩
    refine bind_eq_ok_iff.mpr ⟨options, hoptions, ?_⟩
    rw [hentities]
    rfl

theorem job_eq_error_iff :
    job d env a = .error e ↔ Project.discover d env a.config = .error e ∨
      ∃ project, Project.discover d env a.config = .ok project ∧
        (override a project.settings).validate = .error e := by
  rw [job, bind_eq_error_iff]
  refine or_congr_right (exists_congr fun project => and_congr_right fun hproject => ?_)
  rw [bind_eq_error_iff]
  constructor
  · rintro (herror | ⟨⟨⟩, hvalid, h⟩)
    · exact herror
    · obtain ⟨options, hoptions⟩ := Settings.exists_options_of_validate hvalid
      rw [hoptions] at h
      cases h
  · exact .inl

/-- Where only schemas are asked for, settings that are valid without the arguments stay
so, but for the type of connections. -/
theorem job_eq_error_iff_of_mySql (hdialect : a.dialect = some .mySql) :
    job d env a = .error e ↔ Project.discover d env a.config = .error e ∨
      e = .emptyClient ∧ a.context = true ∧ ∃ project,
        Project.discover d env a.config = .ok project ∧
          Text.isBlankText project.settings.access.contextClient = true := by
  rw [job_eq_error_iff]
  refine or_congr_right ⟨?_, ?_⟩
  · rintro ⟨project, hproject, herror⟩
    have hvalid := Settings.validate_of_discover hproject
    obtain ⟨rfl, hset, hblank⟩ :=
      (breaks_override_iff hdialect hvalid).mp (Settings.breaks_of_validate herror)
    exact ⟨rfl, hset, project, hproject, hblank⟩
  · rintro ⟨rfl, hset, project, hproject, hblank⟩
    have hvalid := Settings.validate_of_discover hproject
    have hbreaks := (breaks_override_iff hdialect hvalid).mpr ⟨rfl, hset, hblank⟩
    cases herror : (override a project.settings).validate with
    | ok u => exact absurd hbreaks (Settings.validate_eq_ok_iff.mp herror _)
    | error e =>
        obtain ⟨rfl, -⟩ :=
          (breaks_override_iff hdialect hvalid).mp (Settings.breaks_of_validate herror)
        exact ⟨project, hproject, herror⟩

theorem on_run_of_prepares (h : Prepares env arguments d a j) :
    (run env arguments).on d = (perform j).on d := by
  rw [on_run, h.parsed]
  dsimp only
  rw [h.job]

/-- A request is refused for its settings exactly if there is no job for it. -/
theorem on_run_eq_settings_iff (h : Arguments.parse arguments = .ok (.generate a)) :
    ((run env arguments).on d).1 = .error (.settings e) ↔ job d env a = .error e := by
  rw [on_run, h]
  dsimp only
  cases job d env a with
  | error e' => simp
  | ok j =>
      dsimp only
      rw [on_perform]
      cases generate d j.source j.output j.entities j.options with
      | error e' => simp
      | ok files =>
          dsimp only
          cases ((Output.apply files j.output j.mode).on d).1 <;> simp [Except.map, Except.mapError]

/-! ## Options of a job -/

/-- The options of a job are consistent, wherever its settings are from. The last dialect
and the context that the arguments give are those of the job. One that only has schemas
turns off the rest, so that a request for it is refused only if the settings without the
arguments are, or if there is no client for the context that it asks for. -/
theorem options_consistent (h : Arguments.parse arguments = .ok (.generate a)) :
    ∃ gs, Grouped arguments gs ∧
      (∀ j, Prepares env arguments d a j →
        (run env arguments).on d = (perform j).on d ∧ j.options.IsConsistent ∧
          (.flag .context ∈ gs → j.options.connection = .context) ∧
          ∀ text, lastValue? .dialect gs = some text →
            Dialect.ofText text = .ok j.options.dialect) ∧
      ∀ text, lastValue? .dialect gs = some text → Dialect.ofText text = .ok .mySql →
        ∀ e, ((run env arguments).on d).1 = .error (.settings e) ↔
          Project.discover d env (lastValue? .config gs) = .error e ∨
            e = .emptyClient ∧ .flag .context ∈ gs ∧ ∃ project,
              Project.discover d env (lastValue? .config gs) = .ok project ∧
                Text.isBlankText project.settings.access.contextClient = true := by
  obtain ⟨gs, hgs, hall⟩ := parse_eq_ok_iff.mp h
  have hcontext : Group.flag .context ∈ gs ↔ a.context = true :=
    (flag_mem_iff hgs).trans (isSet_iff_of_parse h).symm
  have hdialect : ∀ text, lastValue? .dialect gs = some text →
      ∃ dialect, Dialect.ofText text = .ok dialect ∧ a.dialect = some dialect := by
    intro text htext
    have hholds : (lastValue? .dialect gs).mapM Dialect.ofText = .ok a.dialect :=
      holds_lastValue? (o := .dialect) hall
    rw [htext] at hholds
    cases hof : Dialect.ofText text with
    | error e => simp [hof] at hholds
    | ok dialect => exact ⟨dialect, rfl, by simpa [hof, eq_comm] using hholds⟩
  refine ⟨gs, hgs, ?_, ?_⟩
  · intro j hj
    obtain ⟨project, hproject, hvalid, hoptions, -⟩ := job_eq_ok_iff.mp hj.job
    obtain ⟨hdialect', hconnection, -⟩ := Settings.options_eq_ok_iff.mp hoptions
    rw [override_eq] at hdialect' hconnection
    refine ⟨on_run_of_prepares hj, Settings.isConsistent_of_validate hvalid hoptions, ?_, ?_⟩
    · intro hset
      rw [hconnection]
      exact if_pos (hcontext.mp hset)
    · intro text htext
      obtain ⟨dialect, hof, hset⟩ := hdialect text htext
      rw [hset, Option.elim_some, ofText_name] at hdialect'
      rw [hof, hdialect']
  · intro text htext hmySql e
    obtain ⟨dialect, hof, hset⟩ := hdialect text htext
    cases hmySql.symm.trans hof
    have hconfig : a.config = lastValue? .config gs := holds_lastValue? (o := .config) hall
    rw [on_run_eq_settings_iff h, job_eq_error_iff_of_mySql hset, hcontext, hconfig]

/-- The job of a run with a context and a dialect from its arguments. Settings that do not
name them have neither, and they ask for functions and tests. -/
def contextJob : Job :=
  { yardJob with options := { yardJob.options with connection := .context } }

/-- Arguments turn settings with functions and tests into ones without, and a dialect
after another one counts. -/
theorem options_consistent_yard :
    ∃ gs, Grouped ["--dialect=pg", "--context", "--dialect", "mysql"] gs ∧
      contextJob.options.IsConsistent ∧
      (.flag .context ∈ gs → contextJob.options.connection = .context) ∧
      ∀ e, ((run [] ["--dialect=pg", "--context", "--dialect", "mysql"]).on
        (yard craneSource)).1 ≠ .error (.settings e) := by
  have hprepares : Prepares [] ["--dialect=pg", "--context", "--dialect", "mysql"]
      (yard craneSource) { context := true, dialect := some .mySql } contextJob :=
    ⟨by decide +kernel, by decide +kernel⟩
  obtain ⟨gs, hgs, hjobs, -⟩ := options_consistent hprepares.parsed
  obtain ⟨-, hconsistent, hcontext, -⟩ := hjobs _ hprepares
  refine ⟨gs, hgs, hconsistent, hcontext, fun e herror => ?_⟩
  cases hprepares.job.symm.trans ((on_run_eq_settings_iff hprepares.parsed).mp herror)

/-! ## Directories of a job -/

theorem isBlankText_append_iff :
    Text.isBlankText (p ++ q) = true ↔ Text.isBlankText p = true ∧ Text.isBlankText q = true := by
  simp [Text.isBlankText]

/-- A continued path is blank only if what continues it is. -/
theorem isBlankText_of_join (h : Text.isBlankText (Path.join p q) = true) :
    Text.isBlankText q = true := by
  unfold Path.join at h
  split_ifs at h
  · exact h
  · exact (isBlankText_append_iff.mp h).2
  · exact (isBlankText_append_iff.mp h).2

theorem isBlankText_getD_iff {given : Option String} (h : Text.isBlankText q = false) :
    Text.isBlankText (given.getD q) = true ↔
      ∃ text, given = some text ∧ Text.isBlankText text = true := by
  cases given <;> simp [h]

/-- Only the empty path is a prefix of all paths. -/
theorem startsWith_forall_iff : (∀ p, Path.startsWith p q = true) ↔ q = "" := by
  have hempty : Path.components "" = [] := by decide +kernel
  constructor
  · intro h
    have hprefix := h ""
    rw [Path.startsWith, hempty, List.isPrefixOf_iff_prefix, List.prefix_nil] at hprefix
    by_contra hne
    exact Path.components_ne_nil hne hprefix
  · rintro rfl p
    rw [Path.startsWith, hempty]
    rfl

/-- The directories of valid settings are not blank. -/
theorem isBlankText_directories (h : Project.discover d env a.config = .ok project) :
    Text.isBlankText project.sourceDirectory = false ∧
      Text.isBlankText project.outputDirectory = false := by
  have hrules := Settings.validate_eq_ok_iff.mp (Settings.validate_of_discover h)
  rw [← Bool.not_eq_true, ← Bool.not_eq_true]
  constructor
  · intro hblank
    exact hrules _ (.emptySource (isBlankText_of_join hblank))
  · intro hblank
    exact hrules _ (.emptyOutput (isBlankText_of_join hblank))

/-- A directory of a job is blank exactly if the last argument that names it is: no
settings name a blank one, and no rule is about arguments that do. All files of a source
tree are left out exactly if the output directory is given as the empty path. -/
theorem isBlank_directories_iff (h : Prepares env arguments d a j) :
    ∃ gs, Grouped arguments gs ∧
      (Text.isBlankText j.source = true ↔
        ∃ text, lastValue? .source gs = some text ∧ Text.isBlankText text = true) ∧
      (Text.isBlankText j.output = true ↔
        ∃ text, lastValue? .output gs = some text ∧ Text.isBlankText text = true) ∧
      ((∀ p, Path.startsWith p j.output = true) ↔ lastValue? .output gs = some "") := by
  obtain ⟨gs, hgs, hall⟩ := parse_eq_ok_iff.mp h.parsed
  obtain ⟨project, hproject, -, -, hsource, houtput, -⟩ := job_eq_ok_iff.mp h.job
  obtain ⟨hsource', houtput'⟩ := isBlankText_directories hproject
  have hgivenSource : a.source = lastValue? .source gs := holds_lastValue? (o := .source) hall
  have hgivenOutput : a.output = lastValue? .output gs := holds_lastValue? (o := .output) hall
  rw [hgivenSource] at hsource
  rw [hgivenOutput] at houtput
  have hblank : Text.isBlankText j.output = true ↔
      ∃ text, lastValue? .output gs = some text ∧ Text.isBlankText text = true := by
    rw [houtput, isBlankText_getD_iff houtput']
  refine ⟨gs, hgs, ?_, hblank, ?_⟩
  · rw [hsource, isBlankText_getD_iff hsource']
  · rw [startsWith_forall_iff]
    constructor
    · intro hempty
      obtain ⟨text, htext, -⟩ := hblank.mp (by rw [hempty]; rfl)
      rw [htext, Option.getD_some] at houtput
      rw [htext, ← houtput, hempty]
    · intro hgiven
      rw [houtput, hgiven, Option.getD_some]

/-- The job of a run with the empty path for its output directory. -/
def prefixJob : Job where
  source := "src"
  output := ""
  entities := []
  options := {}
  mode := {}

theorem prepares_prefixJob :
    Prepares [] ["--out="] (yard craneSource) { output := some "" } prefixJob :=
  ⟨by decide +kernel, by decide +kernel⟩

/-- Nothing behind an equals sign is the empty path, and it is the only blank one that
these arguments give. -/
theorem isBlank_directories_yard :
    ∃ gs, Grouped ["--out="] gs ∧ lastValue? .output gs = some "" ∧
      ∀ text, lastValue? .source gs = some text → Text.isBlankText text = false := by
  obtain ⟨gs, hgs, hsource, -, hall⟩ := isBlank_directories_iff prepares_prefixJob
  refine ⟨gs, hgs, hall.mp (startsWith_forall_iff.mpr rfl), fun text htext => ?_⟩
  have hpresent : ¬ Text.isBlankText prefixJob.source = true := by decide +kernel
  rw [← Bool.not_eq_true]
  exact fun hblank => hpresent (hsource.mpr ⟨text, htext, hblank⟩)

/-- A run with the empty path for its output directory finds no entity in a source tree
that has one, and reports success. A blank path for the source directory is not refused
either. -/
theorem blank_directories_pass :
    (∃ a j, Prepares [] ["--out="] (yard craneSource) a j ∧
        Text.isBlankText j.output = true ∧ ∀ p, Path.startsWith p j.output = true) ∧
      (run [] ["--out="]).on (yard craneSource) = (.ok "", yard craneSource) ∧
      ∃ a j, Prepares [] ["--src", " "] (yard craneSource) a j ∧
        Text.isBlankText j.source = true := by
  refine ⟨⟨_, _, prepares_prefixJob, rfl, startsWith_forall_iff.mpr rfl⟩, ?_, ?_⟩
  · decide +kernel
  · exact ⟨{ source := some " " }, { prefixJob with source := " ", output := "src/db" },
      ⟨by decide +kernel, by decide +kernel⟩, by decide +kernel⟩

end Rowsmith.Command
