/-
# Flags among arguments

An argument that follows an option with a value is that value, whatever it looks
like; everywhere else the name of a flag sets the flag. `isSet_iff_of_parse` says
that a request has a flag set exactly when its name stands at such a place.
-/

import Rowsmith.Command.Arguments
import Rowsmith.Proofs.Traversal

namespace Rowsmith.Command

/-- An option without a value. -/
inductive Flag where
  | context
  | dryRun
  | check
  deriving DecidableEq, Repr

namespace Flag

/-- The name of a flag. -/
def name : Flag → String
  | context => "--context"
  | dryRun => "--dry-run"
  | check => "--check"

/-- Whether arguments have the flag set. -/
def isSet : Flag → Arguments → Bool
  | context, a => a.context
  | dryRun, a => a.dryRun
  | check, a => a.check

/-- The arguments with the flag. -/
def set (f : Flag) (a : Arguments) : Arguments :=
  match f with
  | context => { a with context := true }
  | dryRun => { a with dryRun := true }
  | check => { a with check := true }

end Flag

/-- The name of the flag stands among arguments, and not as the value of an option. -/
inductive Gives (f : Flag) : List String → Prop where
  | here (rest : List String) : Gives f (f.name :: rest)
  | afterValue {token value : String} {rest : List String} {o : ValueOption}
      (hoption : ValueOption.named? token = some o) (hrest : Gives f rest) :
      Gives f (token :: value :: rest)
  | afterToken {token : String} {rest : List String}
      (hoption : ValueOption.named? token = none) (hrest : Gives f rest) :
      Gives f (token :: rest)

variable {f : Flag} {a b : Arguments} {token value : String} {rest : List String}
  {o : ValueOption}

/-! ## Where a flag stands -/

theorem Flag.name_injective : Function.Injective Flag.name := by
  intro f f' h
  revert h
  cases f <;> cases f' <;> decide

theorem named?_name (f : Flag) : ValueOption.named? f.name = none := by
  cases f <;> decide

theorem joined?_name (f : Flag) : ValueOption.joined? f.name = none := by
  cases f <;> decide

theorem not_gives_nil : ¬ Gives f [] := by
  intro h
  cases h

/-- An option and its value set no flag. -/
theorem gives_value_iff (hoption : ValueOption.named? token = some o) :
    Gives f (token :: value :: rest) ↔ Gives f rest := by
  constructor
  · intro h
    cases h with
    | here => simp [named?_name] at hoption
    | afterValue _ hrest => exact hrest
    | afterToken hnone _ => simp [hoption] at hnone
  · exact .afterValue hoption

theorem gives_token_iff (hoption : ValueOption.named? token = none) :
    Gives f (token :: rest) ↔ token = f.name ∨ Gives f rest := by
  constructor
  · intro h
    cases h with
    | here => exact .inl rfl
    | afterValue hsome _ => simp [hoption] at hsome
    | afterToken _ hrest => exact .inr hrest
  · rintro (rfl | hrest)
    · exact .here rest
    · exact .afterToken hoption hrest

/-! ## What sets a flag -/

/-- Of the options with a value only the dialect refuses some. -/
theorem set_dialect_eq_ok_iff :
    ValueOption.dialect.set a value = .ok b ↔
      ∃ dialect, Dialect.ofText value = .ok dialect ∧ b = { a with dialect := some dialect } := by
  rw [ValueOption.set]
  cases Dialect.ofText value <;> simp [eq_comm]

/-- The value of an option leaves the flags alone. -/
theorem isSet_of_set (h : o.set a value = .ok b) : f.isSet b = f.isSet a := by
  cases o with
  | dialect =>
      obtain ⟨dialect, -, rfl⟩ := set_dialect_eq_ok_iff.mp h
      cases f <;> rfl
  | config | source | output =>
      cases h
      cases f <;> rfl

theorem setFlag?_eq_some_iff :
    a.setFlag? token = some b ↔ ∃ f : Flag, token = f.name ∧ b = f.set a := by
  constructor
  · intro h
    unfold Arguments.setFlag? at h
    split at h
    · cases h
      exact ⟨.context, rfl, rfl⟩
    · cases h
      exact ⟨.dryRun, rfl, rfl⟩
    · cases h
      exact ⟨.check, rfl, rfl⟩
    · cases h
  · rintro ⟨f, rfl, rfl⟩
    cases f <;> rfl

/-- An argument that is the name of a flag sets this flag and no other. -/
theorem isSet_of_setFlag? (h : a.setFlag? token = some b) :
    f.isSet b = true ↔ token = f.name ∨ f.isSet a = true := by
  obtain ⟨f', rfl, rfl⟩ := setFlag?_eq_some_iff.mp h
  cases f' <;> cases f <;> simp [Flag.isSet, Flag.set, Flag.name]

theorem isSet_iff_of_parseAfter {arguments : List String}
    (h : Arguments.parseAfter a arguments = .ok (.generate b)) :
    f.isSet b = true ↔ f.isSet a = true ∨ Gives f arguments := by
  fun_induction Arguments.parseAfter a arguments with
  | case1 a =>
      cases h
      simp [not_gives_nil]
  | case2 a token rest hhelp => cases h
  | case3 a token hhelp o hoption => cases h
  | case4 a token hhelp o value rest hoption ih =>
      obtain ⟨a', hset, h⟩ := bind_eq_ok_iff.mp h
      rw [ih a' h, isSet_of_set hset, gives_value_iff hoption]
  | case5 a token hhelp rest hoption o value hjoined ih =>
      obtain ⟨a', hset, h⟩ := bind_eq_ok_iff.mp h
      have hname : token ≠ f.name := by
        rintro rfl
        simp [joined?_name] at hjoined
      rw [ih a' h, isSet_of_set hset, gives_token_iff hoption]
      simp [hname]
  | case6 a token hhelp rest hoption hjoined a' hflag ih =>
      rw [ih h, isSet_of_setFlag? hflag, gives_token_iff hoption, or_assoc, or_left_comm]
  | case7 a token hhelp rest hoption hjoined hflag => cases h

/-- A request has a flag set exactly when its name stands among the arguments, and
not as the value of an option. -/
theorem isSet_iff_of_parse {arguments : List String}
    (h : Arguments.parse arguments = .ok (.generate a)) :
    f.isSet a = true ↔ Gives f arguments := by
  rw [isSet_iff_of_parseAfter h]
  cases f <;> simp [Flag.isSet]

end Rowsmith.Command
