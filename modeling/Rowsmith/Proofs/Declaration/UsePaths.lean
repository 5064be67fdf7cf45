/-
# What `use` items bind

A `use` tree is short for `use` paths without braces, one for each of its ends.
Each path binds one name at most, and where several paths bind the same name the
last one counts. `self` at the end of a path stands for what comes before it, so
it binds the last name before it, or the name after `as`, to the path without
`self`.

A scope records all of this but the last case: a `self` that gets another name is
recorded as if it were a name of its own. `get?_iff_isBound_iff` says that a scope
has the right paths exactly when every such binding is replaced by a later one.
-/

import Mathlib.Data.List.Basic
import Rowsmith.Declaration.Collect

namespace Rowsmith

open Source

/-! ## Paths without braces -/

/-- The end of a `use` path. -/
inductive UseEnd where
  | name (n : Name)
  /-- `name as alias` -/
  | renamed (n rename : Name)
  /-- `*` -/
  | glob
  deriving DecidableEq

/-- A `use` path without braces. -/
structure UsePath where
  /-- The names before the end. -/
  stem : List String
  last : UseEnd
  deriving DecidableEq

mutual

/-- The paths that a `use` tree below the path `stem` is short for, in order. -/
def UsePath.ofTree (stem : List String) : UseTree → List UsePath
  | .step n tree => ofTree (stem ++ [n.text]) tree
  | .leaf n => [⟨stem, .name n⟩]
  | .renamed n rename => [⟨stem, .renamed n rename⟩]
  | .glob => [⟨stem, .glob⟩]
  | .group trees => ofTrees stem trees

/-- The paths that `use` trees below the path `stem` are short for, in order. -/
def UsePath.ofTrees (stem : List String) : List UseTree → List UsePath
  | [] => []
  | tree :: trees => ofTree stem tree ++ ofTrees stem trees

end

namespace UsePath

/-- The paths that the `use` items among `items` are short for, in order. -/
def ofItems (items : List Item) : List UsePath :=
  items.flatMap fun
    | .imports tree => ofTree [] tree
    | _ => []

/-- What the path makes a name stand for. -/
inductive Binds : UsePath → String → List String → Prop
  | name {stem : List String} {n : Name} (h : n.text ≠ "self") :
      Binds ⟨stem, .name n⟩ n.text (stem ++ [n.text])
  /-- `self` binds the last name before it. -/
  | itself {stem : List String} {n : Name} {last : String} (h : n.text = "self")
      (hlast : stem.getLast? = some last) : Binds ⟨stem, .name n⟩ last stem
  | renamed {stem : List String} {n rename : Name} (h : n.text ≠ "self") :
      Binds ⟨stem, .renamed n rename⟩ rename.text (stem ++ [n.text])
  | itselfRenamed {stem : List String} {n rename : Name} (h : n.text = "self") :
      Binds ⟨stem, .renamed n rename⟩ rename.text stem

/-- Paths that follow each other bind `name` to `path`: one of them does, and no later one binds
the name. -/
def IsBound (uses : List UsePath) (name : String) (path : List String) : Prop :=
  ∃ before u after, uses = before ++ u :: after ∧ u.Binds name path ∧
    ∀ later ∈ after, ¬ ∃ p, later.Binds name p

/-- The path is one to `self as name`. -/
def RenamesItself (u : UsePath) (name : String) : Prop :=
  ∃ n rename, u.last = .renamed n rename ∧ n.text = "self" ∧ rename.text = name

/-! ## What a scope records -/

/-- The name that a scope records for the path, with what it stands for. -/
def recorded? : UsePath → Option (String × List String)
  | ⟨stem, .name n⟩ =>
    if n.text = "self" then stem.getLast?.map (·, stem) else some (n.text, stem ++ [n.text])
  | ⟨stem, .renamed n rename⟩ => some (rename.text, stem ++ [n.text])
  | ⟨_, .glob⟩ => none

mutual

theorem bindingsOfTree_eq (stem : List String) : (tree : UseTree) →
    Scope.bindingsOfTree stem tree = (ofTree stem tree).filterMap recorded?
  | .step n tree => by
      rw [Scope.bindingsOfTree, ofTree]
      exact bindingsOfTree_eq (stem ++ [n.text]) tree
  | .leaf n => by
      rw [Scope.bindingsOfTree, ofTree]
      by_cases hself : n.text = "self"
      · cases hlast : stem.getLast? <;> simp [recorded?, hself, hlast]
      · simp [recorded?, hself]
  | .renamed n rename => by
      rw [Scope.bindingsOfTree, ofTree]
      rfl
  | .glob => by
      rw [Scope.bindingsOfTree, ofTree]
      rfl
  | .group trees => by
      rw [Scope.bindingsOfTree, ofTree]
      exact bindingsOfTrees_eq stem trees

theorem bindingsOfTrees_eq (stem : List String) : (trees : List UseTree) →
    Scope.bindingsOfTrees stem trees = (ofTrees stem trees).filterMap recorded?
  | [] => by
      rw [Scope.bindingsOfTrees, ofTrees]
      rfl
  | tree :: trees => by
      rw [Scope.bindingsOfTrees, ofTrees, List.filterMap_append, bindingsOfTree_eq stem tree,
        bindingsOfTrees_eq stem trees]

end

theorem bindingsOfItems_eq (items : List Item) :
    Scope.bindingsOfItems items = (ofItems items).filterMap recorded? := by
  induction items with
  | nil => rfl
  | cons i items ih =>
      rw [Scope.bindingsOfItems, ofItems, List.flatMap_cons, List.flatMap_cons,
        List.filterMap_append, ← Scope.bindingsOfItems, ← ofItems, ih]
      cases i with
      | imports tree => exact congrArg (· ++ _) (bindingsOfTree_eq [] tree)
      | struct attributes n fields => rfl
      | synonym n target => rfl
      | enum n => rfl
      | inline n items => rfl
      | other => rfl

/-- The first entry for a name in a list of what `f` keeps. -/
theorem lookup_filterMap_eq_some_iff {α β : Type} {f : α → Option (String × β)} {xs : List α}
    {name : String} {b : β} :
    (xs.filterMap f).lookup name = some b ↔
      ∃ before x after, xs = before ++ x :: after ∧ f x = some (name, b) ∧
        ∀ earlier ∈ before, ∀ b', f earlier ≠ some (name, b') := by
  rw [List.lookup_eq_some_iff]
  constructor
  · rintro ⟨front, back, hentries, hfront⟩
    obtain ⟨start, rest, rfl, rfl, hrest⟩ := List.filterMap_eq_append_iff.mp hentries
    obtain ⟨skipped, x, after, rfl, hskipped, hx, -⟩ := List.filterMap_eq_cons_iff.mp hrest
    refine ⟨start ++ skipped, x, after, by rw [List.append_assoc], hx, fun earlier hmem b' h => ?_⟩
    rcases List.mem_append.mp hmem with hstart | hskip
    · have hother := hfront _ (List.mem_filterMap.mpr ⟨earlier, hstart, h⟩)
      simp at hother
    · rw [hskipped earlier hskip] at h
      cases h
  · rintro ⟨before, x, after, rfl, hx, hbefore⟩
    refine ⟨before.filterMap f, after.filterMap f, ?_, fun entry hentry => ?_⟩
    · rw [List.filterMap_append, List.filterMap_cons_some hx]
    · obtain ⟨earlier, hmem, hearlier⟩ := List.mem_filterMap.mp hentry
      have hother : name ≠ entry.1 := by
        rintro rfl
        exact hbefore earlier hmem entry.2 hearlier
      simpa using hother

/-- A name stands for what the last path that is recorded for it says. -/
theorem get?_ofItems_eq_some_iff {module name : String} {items : List Item} {path : List String} :
    (Scope.ofItems module items).get? name = some path ↔
      ∃ before u after, ofItems items = before ++ u :: after ∧ u.recorded? = some (name, path) ∧
        ∀ later ∈ after, ∀ p, later.recorded? ≠ some (name, p) := by
  have hget : (Scope.ofItems module items).get? name =
      ((ofItems items).reverse.filterMap recorded?).lookup name := by
    rw [List.filterMap_reverse, ← bindingsOfItems_eq]
    rfl
  rw [hget, lookup_filterMap_eq_some_iff]
  constructor
  · rintro ⟨before, u, after, huses, hu, hbefore⟩
    refine ⟨after.reverse, u, before.reverse, ?_, hu, by simpa using hbefore⟩
    simpa using congrArg List.reverse huses
  · rintro ⟨before, u, after, huses, hu, hafter⟩
    refine ⟨after.reverse, u, before.reverse, ?_, hu, by simpa using hafter⟩
    simp [huses]

/-! ## Records and meanings -/

variable {u : UsePath} {name : String} {path : List String}

theorem recorded?_eq_some_iff_binds (hu : ¬ u.RenamesItself name) :
    u.recorded? = some (name, path) ↔ u.Binds name path := by
  obtain ⟨stem, last⟩ := u
  constructor
  · intro h
    cases last with
    | name n =>
        rw [recorded?] at h
        by_cases hself : n.text = "self"
        · rw [if_pos hself, Option.map_eq_some_iff] at h
          obtain ⟨first, hfirst, h⟩ := h
          cases h
          exact .itself hself hfirst
        · rw [if_neg hself] at h
          cases h
          exact .name hself
    | renamed n rename =>
        cases h
        exact .renamed fun hself => hu ⟨n, rename, rfl, hself, rfl⟩
    | glob => cases h
  · intro h
    cases h with
    | name hself => rw [recorded?, if_neg hself]
    | itself hself hlast => rw [recorded?, if_pos hself, hlast, Option.map_some]
    | renamed hself => rfl
    | itselfRenamed hself => exact absurd ⟨_, _, rfl, hself, rfl⟩ hu

theorem RenamesItself.binds (hu : u.RenamesItself name) : u.Binds name u.stem := by
  obtain ⟨stem, last⟩ := u
  obtain ⟨n, rename, rfl, hself, rfl⟩ := hu
  exact .itselfRenamed hself

/-- What a scope records for `self as name`. -/
theorem RenamesItself.recorded? (hu : u.RenamesItself name) :
    u.recorded? = some (name, u.stem ++ ["self"]) := by
  obtain ⟨stem, last⟩ := u
  obtain ⟨n, rename, rfl, hself, rfl⟩ := hu
  rw [UsePath.recorded?, hself]

/-- A scope records a name for exactly the paths that bind it. -/
theorem exists_recorded?_iff :
    (∃ p, u.recorded? = some (name, p)) ↔ ∃ p, u.Binds name p := by
  by_cases hu : u.RenamesItself name
  · exact iff_of_true ⟨_, hu.recorded?⟩ ⟨_, hu.binds⟩
  · exact exists_congr fun p => recorded?_eq_some_iff_binds hu

theorem forall_recorded?_ne_iff {uses : List UsePath} :
    (∀ u ∈ uses, ∀ p, u.recorded? ≠ some (name, p)) ↔ ∀ u ∈ uses, ¬ ∃ p, u.Binds name p := by
  simp only [← exists_recorded?_iff, not_exists, ne_eq]

end UsePath

open UsePath

/-- Names other than `_` stand for what the `use` items of a module bind them to, exactly when
`self as name` is followed by another path that binds the name wherever it stands. -/
theorem get?_iff_isBound_iff (module : String) (items : List Item) :
    (∀ name, name ≠ "_" → ∀ path, (Scope.ofItems module items).get? name = some path ↔
      IsBound (UsePath.ofItems items) name path) ↔
    ∀ name, name ≠ "_" → ∀ before u after, UsePath.ofItems items = before ++ u :: after →
      u.RenamesItself name → ∃ later ∈ after, ∃ path, later.Binds name path := by
  constructor
  · intro h name hname before u after huses hu
    by_contra hnone
    have hlast : ∀ later ∈ after, ¬ ∃ p, later.Binds name p :=
      fun later hmem hbinds => hnone ⟨later, hmem, hbinds⟩
    have hget : (Scope.ofItems module items).get? name = some (u.stem ++ ["self"]) :=
      get?_ofItems_eq_some_iff.mpr ⟨before, u, after, huses, hu.recorded?,
        forall_recorded?_ne_iff.mpr hlast⟩
    have hmeant := (h name hname u.stem).mpr ⟨before, u, after, huses, hu.binds, hlast⟩
    rw [hget] at hmeant
    simp at hmeant
  · intro h name hname path
    have hfollowed : ∀ before u after, UsePath.ofItems items = before ++ u :: after →
        (∀ later ∈ after, ¬ ∃ p, later.Binds name p) → ¬ u.RenamesItself name := by
      intro before u after huses hlast hu
      obtain ⟨later, hmem, hbinds⟩ := h name hname before u after huses hu
      exact hlast later hmem hbinds
    rw [get?_ofItems_eq_some_iff]
    constructor
    · rintro ⟨before, u, after, huses, hu, hlast⟩
      have hlast := forall_recorded?_ne_iff.mp hlast
      have hself := hfollowed before u after huses hlast
      exact ⟨before, u, after, huses, (recorded?_eq_some_iff_binds hself).mp hu, hlast⟩
    · rintro ⟨before, u, after, huses, hu, hlast⟩
      have hself := hfollowed before u after huses hlast
      exact ⟨before, u, after, huses, (recorded?_eq_some_iff_binds hself).mpr hu,
        forall_recorded?_ne_iff.mpr hlast⟩

/-- The items of a module that imports `money` under another name. -/
def coinImports : List Item :=
  (parseFile? "use crate::money::\x7bself as coins\x7d;").getD []

/-- The new name stands for a path that ends in `self`, and so does every type that starts with
it. -/
theorem coins_end_in_self :
    (Scope.ofItems "crate" coinImports).get? "coins" = some ["crate", "money", "self"] ∧
      IsBound (UsePath.ofItems coinImports) "coins" ["crate", "money"] ∧
      Collect.source "crate" "use crate::money::\x7bself as coins\x7d; type Price = coins::Cents;"
        .empty =
        .ok (.insert {} ⟨⟨"crate", "Price"⟩, .synonym (.named ⟨"crate::money::self", "Cents"⟩)⟩) ∧
      ¬ ∀ name, name ≠ "_" → ∀ path, (Scope.ofItems "crate" coinImports).get? name = some path ↔
        IsBound (UsePath.ofItems coinImports) name path := by
  have hget : (Scope.ofItems "crate" coinImports).get? "coins" =
      some ["crate", "money", "self"] := by
    decide +kernel
  have hof : UsePath.ofItems coinImports =
      [⟨["crate", "money"],
        .renamed ⟨"self", false, by decide⟩ ⟨"coins", false, by decide⟩⟩] := by
    decide +kernel
  have hbound : IsBound (UsePath.ofItems coinImports) "coins" ["crate", "money"] :=
    ⟨[], _, [], hof, .itselfRenamed rfl, by simp⟩
  refine ⟨hget, hbound, by decide +kernel, fun h => ?_⟩
  have hmeant := (h "coins" (by decide) ["crate", "money"]).mpr hbound
  rw [hget] at hmeant
  cases hmeant

end Rowsmith
