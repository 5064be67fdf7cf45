/-
# The order of groups

Each group of arguments sets one field of a request, and a field has what the last group
that sets it gives. So groups that set different fields may stand in any order:
`rearranged_read_alike` says that only the order among the groups of one field counts,
and that a request for help wins over all groups around it. A run is determined field by
field (`HasLastValues.unique`), which spares an induction over exchanges of neighbours.
-/

import Rowsmith.Proofs.Command.Groups

namespace Rowsmith.Command

open Arguments

/-- A field of a request. -/
inductive Field where
  | value (o : ValueOption)
  | flag (f : Flag)
  deriving DecidableEq, Repr

/-- The field that a group sets. -/
def Group.field : Group → Field
  | value o _ => .value o
  | flag f => .flag f

/-- A group with the arguments that it is written in. -/
structure WrittenGroup where
  arguments : List String
  group : Group
  isGrouped : Grouped arguments [group]
  deriving DecidableEq

/-- The arguments of groups, in order. -/
def argumentsOf (ws : List WrittenGroup) : List String :=
  ws.flatMap WrittenGroup.arguments

/-- What is written, in order. -/
def groupsOf (ws : List WrittenGroup) : List Group :=
  ws.map WrittenGroup.group

/-- The same groups in an order in which those that set one field stand as before. -/
structure Rearranged (ws ws' : List WrittenGroup) : Prop where
  perm : ws'.Perm ws
  keeps : ∀ field, ws'.filter (fun w => w.group.field = field) =
    ws.filter (fun w => w.group.field = field)

/-- The request has in each field what the last group that sets it gives, and nothing
where no group does. -/
structure HasLastValues (gs : List Group) (a : Arguments) : Prop where
  value : ∀ o : ValueOption, o.Holds a (lastValue? o gs)
  flag : ∀ f : Flag, f.isSet a = true ↔ Group.flag f ∈ gs

/-- The group is no dialect, or one that there is. -/
def Group.IsAccepted : Group → Prop
  | value .dialect text => ∃ d, Dialect.ofText text = .ok d
  | _ => True

variable {a b : Arguments} {arguments rest : List String} {gs gs' : List Group} {g : Group}
  {ws ws' : List WrittenGroup} {o : ValueOption}

/-! ## Written groups -/

theorem Grouped.append {arguments' : List String} (h : Grouped arguments gs)
    (h' : Grouped arguments' gs') : Grouped (arguments ++ arguments') (gs ++ gs') := by
  induction h with
  | nil => exact h'
  | spaced hoption _ ih => exact .spaced hoption ih
  | joined hoption _ ih => exact .joined hoption ih
  | flag f _ ih => exact .flag f ih

theorem grouped_argumentsOf (ws : List WrittenGroup) :
    Grouped (argumentsOf ws) (groupsOf ws) := by
  induction ws with
  | nil => exact .nil
  | cons w ws ih => exact w.isGrouped.append ih

theorem Grouped.exists_written (h : Grouped arguments gs) :
    ∃ ws, argumentsOf ws = arguments ∧ groupsOf ws = gs := by
  induction h with
  | nil => exact ⟨[], rfl, rfl⟩
  | @spaced token text _ o _ hoption _ ih =>
      obtain ⟨ws, rfl, rfl⟩ := ih
      exact ⟨⟨[token, text], .value o text, .spaced hoption .nil⟩ :: ws, rfl, rfl⟩
  | @joined token text _ o _ hoption _ ih =>
      obtain ⟨ws, rfl, rfl⟩ := ih
      exact ⟨⟨[token], .value o text, .joined hoption .nil⟩ :: ws, rfl, rfl⟩
  | flag f _ ih =>
      obtain ⟨ws, rfl, rfl⟩ := ih
      exact ⟨⟨[f.name], .flag f, .flag f .nil⟩ :: ws, rfl, rfl⟩

theorem parse_argumentsOf_eq_ok_iff :
    parse (argumentsOf ws) = .ok (.generate a) ↔
      (groupsOf ws).foldlM Group.apply {} = .ok a := by
  rw [parse_eq_ok_iff]
  constructor
  · rintro ⟨gs, hgs, hall⟩
    rwa [hgs.unique (grouped_argumentsOf ws)] at hall
  · exact fun hall => ⟨_, grouped_argumentsOf ws, hall⟩

/-! ## Groups that are accepted -/

theorem exists_apply_iff : (∃ b, g.apply a = .ok b) ↔ g.IsAccepted := by
  cases g with
  | flag f => exact iff_of_true ⟨_, rfl⟩ trivial
  | value o text =>
      cases o with
      | dialect => simp [Group.apply, Group.IsAccepted, set_dialect_eq_ok_iff]
      | config | source | output => exact iff_of_true ⟨_, rfl⟩ trivial

/-- Whether a group is accepted depends on no other group. -/
theorem exists_foldlM_apply_iff :
    (∃ b, gs.foldlM Group.apply a = .ok b) ↔ ∀ g ∈ gs, g.IsAccepted := by
  induction gs generalizing a with
  | nil => exact iff_of_true ⟨a, rfl⟩ (List.forall_mem_nil _)
  | cons g gs ih =>
      rw [List.forall_mem_cons, ← exists_apply_iff (a := a)]
      simp only [List.foldlM_cons, bind_eq_ok_iff]
      constructor
      · rintro ⟨b, a', happly, hall⟩
        exact ⟨⟨a', happly⟩, ih.mp ⟨b, hall⟩⟩
      · rintro ⟨⟨a', happly⟩, haccepted⟩
        obtain ⟨b, hall⟩ := ih.mpr haccepted
        exact ⟨b, a', happly, hall⟩

/-! ## Fields of a request -/

theorem hasLastValues_of_parse (h : parse (argumentsOf ws) = .ok (.generate a)) :
    HasLastValues (groupsOf ws) a where
  value _ := holds_lastValue? (parse_argumentsOf_eq_ok_iff.mp h)
  flag _ := (isSet_iff_of_parse h).trans (flag_mem_iff (grouped_argumentsOf ws)).symm

/-- The groups determine every field. -/
theorem HasLastValues.unique (h : HasLastValues gs a) (h' : HasLastValues gs b) : a = b := by
  have hflag : ∀ f : Flag, f.isSet a = f.isSet b := fun f =>
    Bool.eq_iff_iff.mpr ((h.flag f).trans (h'.flag f).symm)
  have hdialect : a.dialect = b.dialect :=
    Except.ok.inj ((h.value .dialect).symm.trans (h'.value .dialect))
  cases a
  cases b
  simp only [Arguments.mk.injEq]
  exact ⟨(h.value .config).trans (h'.value .config).symm,
    (h.value .source).trans (h'.value .source).symm,
    (h.value .output).trans (h'.value .output).symm, hflag .context, hdialect, hflag .dryRun,
    hflag .check⟩

/-- Only groups that set the field of an option give it a value. -/
theorem lastValue?_filter :
    lastValue? o (gs.filter fun g => g.field = .value o) = lastValue? o gs := by
  unfold lastValue?
  rw [List.filterMap_filter]
  congr 2
  funext g
  cases g with
  | flag f => rfl
  | value o' text =>
      by_cases hsame : o' = o <;> simp [Group.field, Group.value?, hsame]

theorem Rearranged.groups (h : Rearranged ws ws') : (groupsOf ws').Perm (groupsOf ws) :=
  h.perm.map WrittenGroup.group

theorem Rearranged.lastValue?_eq (h : Rearranged ws ws') :
    lastValue? o (groupsOf ws') = lastValue? o (groupsOf ws) := by
  have hkeeps := congrArg groupsOf (h.keeps (.value o))
  calc lastValue? o (groupsOf ws')
      = lastValue? o ((groupsOf ws').filter fun g => g.field = .value o) := lastValue?_filter.symm
    _ = lastValue? o ((groupsOf ws).filter fun g => g.field = .value o) := by
        rw [groupsOf, groupsOf, List.filter_map, List.filter_map]
        exact congrArg (lastValue? o) hkeeps
    _ = lastValue? o (groupsOf ws) := lastValue?_filter

theorem Rearranged.hasLastValues_iff (h : Rearranged ws ws') :
    HasLastValues (groupsOf ws') a ↔ HasLastValues (groupsOf ws) a := by
  constructor
  all_goals
    rintro ⟨hvalue, hflag⟩
    refine ⟨fun o => ?_, fun f => ?_⟩
  · exact h.lastValue?_eq ▸ hvalue o
  · exact (hflag f).trans h.groups.mem_iff
  · exact h.lastValue?_eq.symm ▸ hvalue o
  · exact (hflag f).trans h.groups.mem_iff.symm

/-! ## Rearranged groups -/

theorem parse_rearranged (hws : Rearranged ws ws')
    (h : parse (argumentsOf ws) = .ok (.generate a)) :
    parse (argumentsOf ws') = .ok (.generate a) := by
  have haccepted : ∀ g ∈ groupsOf ws, g.IsAccepted :=
    exists_foldlM_apply_iff.mp ⟨a, parse_argumentsOf_eq_ok_iff.mp h⟩
  obtain ⟨b, hall⟩ := exists_foldlM_apply_iff (a := {}).mpr fun g hg =>
    haccepted g (hws.groups.mem_iff.mp hg)
  have hb := parse_argumentsOf_eq_ok_iff.mpr hall
  have hsame : b = a :=
    (hws.hasLastValues_iff.mp (hasLastValues_of_parse hb)).unique (hasLastValues_of_parse h)
  rw [hb, hsame]

/-- Groups that are accepted do not keep a request for help from being read. -/
theorem parse_help {token : String} (haccepted : ∀ g ∈ groupsOf ws, g.IsAccepted)
    (htoken : token ∈ ["-h", "--help"]) :
    parse (argumentsOf ws ++ token :: rest) = .ok .help := by
  obtain ⟨b, hall⟩ := exists_foldlM_apply_iff (a := {}).mpr haccepted
  have hb : parseAfter {} (argumentsOf ws) = .ok (.generate b) :=
    parse_argumentsOf_eq_ok_iff.mpr hall
  rw [parse, parseAfter_append (grouped_argumentsOf ws).isComplete, hb]
  have hhelp : token = "-h" ∨ token = "--help" := by simpa using htoken
  show parseAfter b (token :: rest) = .ok .help
  rcases hhelp with rfl | rfl
  all_goals
    rw [parseAfter_single (by decide)]
    rfl

/-- A request has in each field what the last group that sets it gives. All orders of its
groups that keep this group last ask for the same, and with a request for help between
two of the groups the arguments ask for help. -/
theorem rearranged_read_alike (h : parse arguments = .ok (.generate a)) :
    (∃ ws, argumentsOf ws = arguments) ∧
      ∀ ws, argumentsOf ws = arguments →
        HasLastValues (groupsOf ws) a ∧
          (∀ ws', Rearranged ws ws' → parse (argumentsOf ws') = .ok (.generate a)) ∧
          ∀ before after, ws = before ++ after → ∀ token ∈ ["-h", "--help"],
            parse (argumentsOf before ++ token :: argumentsOf after) = .ok .help := by
  constructor
  · obtain ⟨gs, hgs, -⟩ := parse_eq_ok_iff.mp h
    obtain ⟨ws, hws, -⟩ := hgs.exists_written
    exact ⟨ws, hws⟩
  · rintro ws rfl
    refine ⟨hasLastValues_of_parse h, fun ws' hws' => parse_rearranged hws' h, ?_⟩
    rintro before after rfl token htoken
    have haccepted : ∀ g ∈ groupsOf (before ++ after), g.IsAccepted :=
      exists_foldlM_apply_iff.mp ⟨a, parse_argumentsOf_eq_ok_iff.mp h⟩
    refine parse_help (fun g hg => haccepted g ?_) htoken
    rw [groupsOf, List.map_append]
    exact List.mem_append_left _ hg

/-- Groups in which two set the source directory, one with a value that looks like an
option. -/
def lastSource : List WrittenGroup :=
  [ ⟨["--src", "--check"], .value .source "--check", .spaced (by decide) .nil⟩,
    ⟨["-o", "gen"], .value .output "gen", .spaced (by decide) .nil⟩,
    ⟨["--src=model"], .value .source "model", .joined (by decide +kernel) .nil⟩,
    ⟨["--dry-run"], .flag .dryRun, .flag .dryRun .nil⟩ ]

/-- The same groups, with the ones for the source directory in their order. -/
def lastSourceFirst : List WrittenGroup :=
  [ ⟨["--dry-run"], .flag .dryRun, .flag .dryRun .nil⟩,
    ⟨["--src", "--check"], .value .source "--check", .spaced (by decide) .nil⟩,
    ⟨["--src=model"], .value .source "model", .joined (by decide +kernel) .nil⟩,
    ⟨["-o", "gen"], .value .output "gen", .spaced (by decide) .nil⟩ ]

theorem rearranged_read_alike_source :
    parse (argumentsOf lastSource) =
        .ok (.generate { source := some "model", output := some "gen", dryRun := true }) ∧
      Rearranged lastSource lastSourceFirst ∧
      parse ["--dry-run", "--src", "--check", "--src=model", "-o", "gen"] =
        .ok (.generate { source := some "model", output := some "gen", dryRun := true }) ∧
      parse ["--src", "--check", "-o", "gen", "--help", "--src=model", "--dry-run"] =
        .ok .help := by
  have hparse : parse (argumentsOf lastSource) =
      .ok (.generate { source := some "model", output := some "gen", dryRun := true }) := by
    decide +kernel
  have hrearranged : Rearranged lastSource lastSourceFirst := by
    refine ⟨by decide, fun field => ?_⟩
    cases field with
    | value o => cases o <;> decide
    | flag f => cases f <;> decide
  obtain ⟨-, hall⟩ := rearranged_read_alike hparse
  obtain ⟨-, halike, hhelp⟩ := hall lastSource rfl
  exact ⟨hparse, hrearranged, halike _ hrearranged,
    hhelp (lastSource.take 2) (lastSource.drop 2) rfl "--help" (by decide)⟩

end Rowsmith.Command
