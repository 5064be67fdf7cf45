/-
# Groups of arguments

Arguments come in groups: an option with its value, in one argument or in two, or a
flag. A request is read group by group, and each group sets one field.
`parse_eq_ok_iff` says that the arguments of a request are such groups and nothing
else, and `Grouped.unique` that there is one way to group them. So of several values of
an option the last one counts, however it is written: `holds_lastValue?`.
-/

import Mathlib.Data.List.Induction
import Rowsmith.Proofs.Command.Arguments

namespace Rowsmith.Command

/-- A group of arguments. -/
inductive Group where
  | value (o : ValueOption) (text : String)
  | flag (f : Flag)
  deriving DecidableEq, Repr

/-- The arguments are those of the groups in order. -/
inductive Grouped : List String → List Group → Prop where
  | nil : Grouped [] []
  /-- The value of an option follows in the next argument, whatever that looks like. -/
  | spaced {token text : String} {rest : List String} {o : ValueOption} {gs : List Group}
      (hoption : ValueOption.named? token = some o) (hrest : Grouped rest gs) :
      Grouped (token :: text :: rest) (.value o text :: gs)
  /-- The value of an option follows in the same argument. -/
  | joined {token text : String} {rest : List String} {o : ValueOption} {gs : List Group}
      (hoption : ValueOption.joined? token = some (o, text)) (hrest : Grouped rest gs) :
      Grouped (token :: rest) (.value o text :: gs)
  | flag (f : Flag) {rest : List String} {gs : List Group} (hrest : Grouped rest gs) :
      Grouped (f.name :: rest) (.flag f :: gs)

/-- No option at the end waits for its value. -/
inductive Complete : List String → Prop where
  | nil : Complete []
  | spaced {token text : String} {rest : List String} {o : ValueOption}
      (hoption : ValueOption.named? token = some o) (hrest : Complete rest) :
      Complete (token :: text :: rest)
  | single {token : String} {rest : List String}
      (hoption : ValueOption.named? token = none) (hrest : Complete rest) :
      Complete (token :: rest)

/-- The arguments with what the group sets. -/
def Group.apply (a : Arguments) : Group → Except ArgumentError Arguments
  | value o text => o.set a text
  | flag f => .ok (f.set a)

/-- The value that the group gives the option, if it gives it one. -/
def Group.value? (o : ValueOption) : Group → Option String
  | value o' text => if o' = o then some text else none
  | flag _ => none

/-- The last value that a group gives the option, if any group gives it one. -/
def lastValue? (o : ValueOption) (gs : List Group) : Option String :=
  (gs.filterMap (Group.value? o)).getLast?

/-- The arguments have the value for the option, or none. -/
def ValueOption.Holds (o : ValueOption) (a : Arguments) (value : Option String) : Prop :=
  match o with
  | config => a.config = value
  | source => a.source = value
  | output => a.output = value
  | dialect => value.mapM Dialect.ofText = .ok a.dialect

variable {a b : Arguments} {arguments rest : List String} {gs : List Group} {g : Group}
  {f : Flag} {o o' : ValueOption} {token text : String} {value : Option String}

/-! ## Reading groups -/

theorem eq_name_of_named? (h : ValueOption.named? token = some o) :
    token = "-o" ∨ token = o.name := by
  unfold ValueOption.named? at h
  split at h
  next hshort => exact .inl hshort
  next =>
    have hname : o.name = token := by simpa using List.find?_some h
    exact .inr hname.symm

/-- An option with a value in its own argument takes none from the next one. -/
theorem named?_eq_none (h : ValueOption.joined? token = some (o, text)) :
    ValueOption.named? token = none := by
  cases hnamed : ValueOption.named? token with
  | none => rfl
  | some o' =>
      have hjoined : ValueOption.joined? token = none := by
        rcases eq_name_of_named? hnamed with rfl | rfl
        · decide
        · cases o' <;> decide
      cases hjoined.symm.trans h

/-- Arguments can be grouped in one way only. -/
theorem Grouped.unique {gs' : List Group} (h : Grouped arguments gs) (h' : Grouped arguments gs') :
    gs = gs' := by
  induction h generalizing gs' with
  | nil =>
      cases h'
      rfl
  | spaced hoption hrest ih =>
      cases h' with
      | spaced hoption' hrest' =>
          cases hoption.symm.trans hoption'
          rw [ih hrest']
      | joined hjoined _ => cases hoption.symm.trans (named?_eq_none hjoined)
      | flag f _ => cases hoption.symm.trans (named?_name f)
  | joined hjoined hrest ih =>
      cases h' with
      | spaced hoption' _ => cases hoption'.symm.trans (named?_eq_none hjoined)
      | joined hjoined' hrest' =>
          cases hjoined.symm.trans hjoined'
          rw [ih hrest']
      | flag f _ => cases hjoined.symm.trans (joined?_name f)
  | flag f hrest ih =>
      generalize hname : f.name = token at h'
      cases h' with
      | spaced hoption' _ => cases hoption'.symm.trans (hname ▸ named?_name f)
      | joined hjoined' _ => cases hjoined'.symm.trans (hname ▸ joined?_name f)
      | flag f' hrest' =>
          obtain rfl := Flag.name_injective hname
          rw [ih hrest']

/-- No group asks for help. -/
theorem not_isHelp {token : String}
    (h : ValueOption.named? token ≠ none ∨ ValueOption.joined? token ≠ none) :
    ¬ (token = "-h" || token = "--help") = true := by
  rw [Bool.or_eq_true, decide_eq_true_eq, decide_eq_true_eq]
  rintro (rfl | rfl) <;> exact absurd h (by decide)

theorem parseAfter_spaced (hoption : ValueOption.named? token = some o) :
    Arguments.parseAfter a (token :: text :: rest) =
      o.set a text >>= fun b => Arguments.parseAfter b rest := by
  rw [Arguments.parseAfter, if_neg (not_isHelp (.inl (by simp [hoption])))]
  simp only [hoption]

theorem parseAfter_joined (hoption : ValueOption.joined? token = some (o, text)) :
    Arguments.parseAfter a (token :: rest) =
      o.set a text >>= fun b => Arguments.parseAfter b rest := by
  rw [Arguments.parseAfter, if_neg (not_isHelp (.inr (by simp [hoption])))]
  · simp only [hoption]
  · exact named?_eq_none hoption

theorem parseAfter_flag (f : Flag) :
    Arguments.parseAfter a (f.name :: rest) = Arguments.parseAfter (f.set a) rest := by
  cases f <;> rfl

theorem parseAfter_single (hoption : ValueOption.named? token = none) :
    Arguments.parseAfter a (token :: rest) =
      if token = "-h" || token = "--help" then .ok .help
      else
        match ValueOption.joined? token with
        | some (o, value) => o.set a value >>= fun b => Arguments.parseAfter b rest
        | none =>
          match a.setFlag? token with
          | some b => Arguments.parseAfter b rest
          | none => .error (.unknown token) := by
  have hread := Arguments.parseAfter.eq_def a (token :: rest)
  simp only [hoption] at hread
  exact hread

/-- Complete arguments are read first, and what follows goes on from what they set. -/
theorem parseAfter_append (h : Complete arguments) :
    Arguments.parseAfter a (arguments ++ rest) =
      Arguments.parseAfter a arguments >>= fun
        | .help => .ok .help
        | .generate b => Arguments.parseAfter b rest := by
  induction h generalizing a with
  | nil => rfl
  | spaced hoption hrest ih =>
      rw [List.cons_append, List.cons_append, parseAfter_spaced hoption,
        parseAfter_spaced hoption, bind_assoc]
      simp only [ih]
  | single hoption hrest ih =>
      rw [List.cons_append, parseAfter_single hoption, parseAfter_single hoption]
      split
      · rfl
      split
      · simp only [bind_assoc, ih]
      split
      · simp only [ih]
      · rfl

theorem Grouped.isComplete (h : Grouped arguments gs) : Complete arguments := by
  induction h with
  | nil => exact .nil
  | spaced hoption _ ih => exact .spaced hoption ih
  | joined hoption _ ih => exact .single (named?_eq_none hoption) ih
  | flag f _ ih => exact .single (named?_name f) ih

theorem parseAfter_eq_ok_iff :
    Arguments.parseAfter a arguments = .ok (.generate b) ↔
      ∃ gs, Grouped arguments gs ∧ gs.foldlM Group.apply a = .ok b := by
  constructor
  · intro h
    fun_induction Arguments.parseAfter a arguments with
    | case1 a =>
        cases h
        exact ⟨[], .nil, rfl⟩
    | case2 a token rest hhelp => cases h
    | case3 a token hhelp o hoption => cases h
    | case4 a token hhelp o value rest hoption ih =>
        obtain ⟨a', hset, h⟩ := bind_eq_ok_iff.mp h
        obtain ⟨gs, hgs, hall⟩ := ih a' h
        exact ⟨.value o value :: gs, .spaced hoption hgs, bind_eq_ok_iff.mpr ⟨a', hset, hall⟩⟩
    | case5 a token hhelp rest hoption o value hjoined ih =>
        obtain ⟨a', hset, h⟩ := bind_eq_ok_iff.mp h
        obtain ⟨gs, hgs, hall⟩ := ih a' h
        exact ⟨.value o value :: gs, .joined hjoined hgs, bind_eq_ok_iff.mpr ⟨a', hset, hall⟩⟩
    | case6 a token hhelp rest hoption hjoined a' hflag ih =>
        obtain ⟨f, rfl, rfl⟩ := setFlag?_eq_some_iff.mp hflag
        obtain ⟨gs, hgs, hall⟩ := ih h
        exact ⟨.flag f :: gs, .flag f hgs, hall⟩
    | case7 a token hhelp rest hoption hjoined hflag => cases h
  · rintro ⟨gs, hgs, hall⟩
    induction hgs generalizing a with
    | nil =>
        cases hall
        rfl
    | spaced hoption hrest ih =>
        obtain ⟨a', hset, hall⟩ := bind_eq_ok_iff.mp hall
        rw [parseAfter_spaced hoption, bind_eq_ok_iff]
        exact ⟨a', hset, ih hall⟩
    | joined hoption hrest ih =>
        obtain ⟨a', hset, hall⟩ := bind_eq_ok_iff.mp hall
        rw [parseAfter_joined hoption, bind_eq_ok_iff]
        exact ⟨a', hset, ih hall⟩
    | flag f hrest ih =>
        rw [parseAfter_flag]
        exact ih hall

/-- The arguments of a request are groups, and the groups set its fields in order. -/
theorem parse_eq_ok_iff :
    Arguments.parse arguments = .ok (.generate a) ↔
      ∃ gs, Grouped arguments gs ∧ gs.foldlM Group.apply {} = .ok a :=
  parseAfter_eq_ok_iff

/-! ## Values and flags of a request -/

theorem holds_of_set (h : o'.set a text = .ok b) (ha : o.Holds a value) :
    o.Holds b (if o' = o then some text else value) := by
  by_cases hsame : o' = o
  · rw [if_pos hsame]
    subst hsame
    cases o' with
    | dialect =>
        obtain ⟨dialect, hdialect, rfl⟩ := set_dialect_eq_ok_iff.mp h
        simp [ValueOption.Holds, hdialect]
    | config | source | output =>
        cases h
        rfl
  · rw [if_neg hsame]
    cases o' with
    | dialect =>
        obtain ⟨dialect, -, rfl⟩ := set_dialect_eq_ok_iff.mp h
        cases o <;> first | exact absurd rfl hsame | exact ha
    | config | source | output =>
        cases h
        cases o <;> first | exact absurd rfl hsame | exact ha

/-- A group changes the value of an option only if it gives it one. -/
theorem holds_of_apply (h : g.apply a = .ok b) (ha : o.Holds a value) :
    o.Holds b ((g.value? o).or value) := by
  cases g with
  | value o' text =>
      have hb := holds_of_set h ha
      rw [Group.value?]
      split_ifs at hb ⊢ <;> exact hb
  | flag f =>
      cases h
      cases f <;> cases o <;> exact ha

theorem lastValue?_concat : lastValue? o (gs ++ [g]) = (g.value? o).or (lastValue? o gs) := by
  unfold lastValue?
  rw [List.filterMap_append, List.getLast?_append]
  cases hg : g.value? o <;> simp [hg]

/-- A request has the last value given to an option, and none if none is given. -/
theorem holds_lastValue? (h : gs.foldlM Group.apply {} = .ok a) : o.Holds a (lastValue? o gs) := by
  induction gs using List.reverseRecOn generalizing a with
  | nil =>
      cases h
      cases o <;> rfl
  | append_singleton gs g ih =>
      rw [List.foldlM_append] at h
      obtain ⟨a', hall, h⟩ := bind_eq_ok_iff.mp h
      obtain ⟨b, happly, h⟩ := bind_eq_ok_iff.mp h
      cases h
      rw [lastValue?_concat]
      exact holds_of_apply happly (ih hall)

theorem flag_mem_iff (h : Grouped arguments gs) : Group.flag f ∈ gs ↔ Gives f arguments := by
  induction h with
  | nil => simp [not_gives_nil]
  | spaced hoption hrest ih => simp [gives_value_iff hoption, ih]
  | @joined token text rest o gs hoption hrest ih =>
      have hname : token ≠ f.name := by
        rintro rfl
        simp [joined?_name] at hoption
      simp [gives_token_iff (named?_eq_none hoption), hname, ih]
  | flag f' hrest ih =>
      simp [gives_token_iff (named?_name f'), Flag.name_injective.eq_iff, eq_comm, ih]

end Rowsmith.Command
