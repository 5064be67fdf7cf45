/-
# Rules for settings

Settings are checked rule by rule, and the first rule that they break gives the
error. `Breaks` lists the rules, each with its error and without the others.
`validate_eq_ok_iff` says that the settings that pass are those that break no rule,
and `validate_of_discover` that the settings of every project do.
-/

import Rowsmith.Proofs.Traversal
import Rowsmith.Settings.Project

namespace Rowsmith

namespace Settings

/-- The settings break the rule that the error stands for. -/
inductive Breaks (s : Settings) : SettingsError → Prop where
  | version (hversion : Text.trimmed s.version ≠ "1") : Breaks s (.version s.version)
  | emptySource (hblank : Text.isBlankText s.input.source = true) : Breaks s .emptySource
  | emptyEntity {name : String} (hname : name ∈ s.input.entities)
      (hblank : Text.isBlankText name = true) : Breaks s .emptyEntity
  | emptyOutput (hblank : Text.isBlankText s.output.directory = true) : Breaks s .emptyOutput
  | noRows (hrows : s.access.maxRows = 0) : Breaks s .noRows
  | dialect {e : UnknownDialect} (hunknown : Dialect.ofText s.output.dialect = .error e) :
      Breaks s (.dialect e)
  | schemaOnly (hdialect : Dialect.ofText s.output.dialect = .ok .mySql)
      (hmore : s.output.crud = true ∨ s.output.tests = true) : Breaks s .schemaOnly
  | testsAlone (htests : s.output.tests = true)
      (hless : s.output.crud = false ∨ s.output.schema = false) : Breaks s .testsAlone
  | emptyClient (hcontext : s.access.connection = .context)
      (hblank : Text.isBlankText s.access.contextClient = true) : Breaks s .emptyClient
  | testClient (hcontext : s.access.connection = .context) (htests : s.output.tests = true)
      (hclient : s.access.contextClient ∉ testClients) :
      Breaks s (.testClient s.access.contextClient)

variable {s : Settings} {e : SettingsError}

/-- The rules in the order in which they are checked. -/
theorem validate_eq (s : Settings) :
    s.validate =
      if Text.trimmed s.version ≠ "1" then .error (.version s.version)
      else if Text.isBlankText s.input.source then .error .emptySource
      else if s.input.entities.any Text.isBlankText then .error .emptyEntity
      else if Text.isBlankText s.output.directory then .error .emptyOutput
      else if s.access.maxRows = 0 then .error .noRows
      else s.dialect >>= fun dialect =>
        if dialect = .mySql && (s.output.crud || s.output.tests) then .error .schemaOnly
        else if s.output.tests && !(s.output.crud && s.output.schema) then .error .testsAlone
        else if s.access.connection = .context then
          if Text.isBlankText s.access.contextClient then .error .emptyClient
          else if s.output.tests && !testClients.contains s.access.contextClient then
            .error (.testClient s.access.contextClient)
          else .ok ()
        else .ok () :=
  rfl

theorem breaks_of_validate (h : s.validate = .error e) : s.Breaks e := by
  simp only [validate_eq, ite_error_eq_error_iff, bind_eq_error_iff, dialect,
    mapError_eq_error_iff, mapError_eq_ok_iff] at h
  rcases h with ⟨hversion, rfl⟩ | ⟨-, ⟨hblank, rfl⟩ | ⟨-, ⟨hany, rfl⟩ | ⟨-, ⟨hblank, rfl⟩ |
    ⟨-, ⟨hrows, rfl⟩ | ⟨-, ⟨unknown, hunknown, rfl⟩ | ⟨dialect, hdialect, h⟩⟩⟩⟩⟩⟩
  · exact .version hversion
  · exact .emptySource hblank
  · obtain ⟨name, hname, hblank⟩ := List.any_eq_true.mp hany
    exact .emptyEntity hname hblank
  · exact .emptyOutput hblank
  · exact .noRows hrows
  · exact .dialect hunknown
  · rcases h with ⟨hmore, rfl⟩ | ⟨-, ⟨hless, rfl⟩ | ⟨-, h⟩⟩
    · simp only [Bool.and_eq_true, decide_eq_true_eq, Bool.or_eq_true] at hmore
      exact .schemaOnly (hmore.1 ▸ hdialect) hmore.2
    · simp only [Bool.and_eq_true, Bool.not_eq_true', Bool.and_eq_false_iff] at hless
      exact .testsAlone hless.1 hless.2
    · split at h
      next hcontext =>
        rw [ite_error_eq_error_iff, ite_error_eq_error_iff] at h
        rcases h with ⟨hblank, rfl⟩ | ⟨-, ⟨hclient, rfl⟩ | ⟨-, h⟩⟩
        · exact .emptyClient hcontext hblank
        · simp only [Bool.and_eq_true, Bool.not_eq_true', List.contains_eq_mem,
            decide_eq_false_iff_not] at hclient
          exact .testClient hcontext hclient.1 hclient.2
        · cases h
      next => cases h

/-- Settings pass exactly if they break no rule. -/
theorem validate_eq_ok_iff : s.validate = .ok () ↔ ∀ e, ¬ s.Breaks e := by
  constructor
  · intro h e hbreaks
    simp only [validate_eq, ite_error_eq_ok_iff, bind_eq_ok_iff, dialect, mapError_eq_ok_iff] at h
    obtain ⟨hversion, hsource, hentities, houtput, hrows, dialect, hdialect, hschema, htested,
      hclient⟩ := h
    cases hbreaks with
    | version hbroken => exact hversion hbroken
    | emptySource hblank => exact hsource hblank
    | emptyEntity hname hblank => exact hentities (List.any_eq_true.mpr ⟨_, hname, hblank⟩)
    | emptyOutput hblank => exact houtput hblank
    | noRows hbroken => exact hrows hbroken
    | dialect hunknown => cases hdialect.symm.trans hunknown
    | schemaOnly hmySql hmore =>
        cases hdialect.symm.trans hmySql
        simp [hmore] at hschema
    | testsAlone htests hless => simp [htests, hless] at htested
    | emptyClient hcontext hblank =>
        rw [if_pos hcontext, ite_error_eq_ok_iff] at hclient
        exact hclient.1 hblank
    | testClient hcontext htests hother =>
        rw [if_pos hcontext, ite_error_eq_ok_iff, ite_error_eq_ok_iff] at hclient
        simp [htests, hother] at hclient
  · intro h
    cases hvalidate : s.validate with
    | ok u => rfl
    | error e => exact absurd (breaks_of_validate hvalidate) (h e)

/-- The settings of every project break no rule, those that are there without a file included. -/
theorem validate_of_discover {d : Disk} {env : Environment} {path : Option String}
    {project : Project} (h : Project.discover d env path = .ok project) :
    project.settings.validate = .ok () := by
  have hload : ∀ path, Project.load d env path = .ok project →
      project.settings.validate = .ok () := by
    intro path h
    obtain ⟨read, -, h⟩ := bind_eq_ok_iff.mp h
    obtain ⟨settings, -, h⟩ := bind_eq_ok_iff.mp h
    obtain ⟨⟨⟩, hvalid, h⟩ := bind_eq_ok_iff.mp h
    cases h
    exact hvalid
  unfold Project.discover at h
  split at h
  next path => exact hload path h
  next =>
    split at h
    next => exact hload _ h
    next =>
      cases h
      decide +kernel

end Settings

/-! ## Options -/

/-- No option asks for what another one rules out. -/
structure Code.Options.IsConsistent (o : Code.Options) : Prop where
  schemaOnly : o.dialect = .mySql → o.crud = false ∧ o.tests = false
  tested : o.tests = true → o.crud = true ∧ o.schema = true
  rows : 1 ≤ o.maxRows
  client : o.connection = .context → Text.isBlankText o.contextClient = false
  testClient : o.connection = .context → o.tests = true →
    o.contextClient ∈ Settings.testClients

namespace Settings

variable {s : Settings} {o : Code.Options}

theorem options_eq_ok_iff : s.options = .ok o ↔ Dialect.ofText s.output.dialect = .ok o.dialect ∧
    o.connection = s.access.connection ∧ o.contextClient = s.access.contextClient ∧
    o.maxRows = s.access.maxRows ∧
    o.autoTimestamps =
      [s.timestamps.inserted, s.timestamps.updated].filter (fun t => !Text.isBlankText t) ∧
    o.schema = s.output.schema ∧ o.crud = s.output.crud ∧ o.tests = s.output.tests := by
  rw [options, bind_eq_ok_iff]
  simp only [dialect, mapError_eq_ok_iff]
  constructor
  · rintro ⟨dialect, hdialect, h⟩
    cases h
    exact ⟨hdialect, rfl, rfl, rfl, rfl, rfl, rfl, rfl⟩
  · obtain ⟨dialect, connection, client, rows, timestamps, schema, crud, tests⟩ := o
    rintro ⟨hdialect, rfl, rfl, rfl, rfl, rfl, rfl, rfl⟩
    exact ⟨dialect, hdialect, rfl⟩

/-- Settings that break no rule have options. -/
theorem exists_options_of_validate (hvalid : s.validate = .ok ()) : ∃ o, s.options = .ok o := by
  cases hdialect : Dialect.ofText s.output.dialect with
  | error e => exact absurd (.dialect hdialect) (validate_eq_ok_iff.mp hvalid _)
  | ok dialect =>
      exact ⟨_, bind_eq_ok_iff.mpr ⟨dialect, mapError_eq_ok_iff.mpr hdialect, rfl⟩⟩

/-- The options of settings that break no rule are consistent. -/
theorem isConsistent_of_validate (hvalid : s.validate = .ok ()) (h : s.options = .ok o) :
    o.IsConsistent := by
  have hrules := validate_eq_ok_iff.mp hvalid
  obtain ⟨hdialect, hconnection, hclient, hrows, -, hschema, hcrud, htests⟩ :=
    options_eq_ok_iff.mp h
  constructor
  · intro hmySql
    rw [hmySql] at hdialect
    rw [hcrud, htests, ← Bool.not_eq_true, ← Bool.not_eq_true, ← not_or]
    exact fun hmore => hrules _ (.schemaOnly hdialect hmore)
  · intro htested
    rw [htests] at htested
    rw [hcrud, hschema, ← Bool.not_eq_false, ← Bool.not_eq_false, ← not_or]
    exact fun hless => hrules _ (.testsAlone htested hless)
  · rw [hrows]
    exact Nat.one_le_iff_ne_zero.mpr fun hnone => hrules _ (.noRows hnone)
  · intro hcontext
    rw [hconnection] at hcontext
    rw [hclient, ← Bool.not_eq_true]
    exact fun hblank => hrules _ (.emptyClient hcontext hblank)
  · intro hcontext htested
    rw [hconnection] at hcontext
    rw [htests] at htested
    rw [hclient]
    by_contra hother
    exact hrules _ (.testClient hcontext htested hother)

end Settings

end Rowsmith
