/-
# Locations

A location is found from the root or from the working directory. It has names of entries
behind the root or behind steps upwards (`IsLocation`), and what it holds is found by
more names (`IsUnder`). The directory above a location is a location, and so is
everything at its start; names that lead down from one location to another are names
of entries.
-/

import Mathlib.Data.List.TakeWhile
import Rowsmith.Disk.Basic

namespace Rowsmith.Disk

/-- Whether a text names an entry of a directory. -/
def IsEntryName (name : String) : Prop :=
  name ≠ "" ∧ name ≠ "." ∧ name ≠ ".." ∧ '/' ∉ name.toList

instance (name : String) : Decidable (IsEntryName name) :=
  inferInstanceAs (Decidable (_ ∧ _ ∧ _ ∧ _))

/-- A location has names of entries behind the root or behind steps upwards. -/
inductive IsLocation : Location → Prop
  | root : IsLocation ["/"]
  | upwards (n : Nat) : IsLocation (List.replicate n "..")
  | entry {l : Location} {name : String} (holder : IsLocation l) (named : IsEntryName name) :
      IsLocation (l ++ [name])

/-- The location `k` lies below the location `l`. -/
def IsUnder (l k : Location) : Prop :=
  ∃ names : List String, names ≠ [] ∧ (∀ name ∈ names, IsEntryName name) ∧ k = l ++ names

/-- The directory that holds an entry is above it. -/
theorem above_append_name (l : Location) {name : String} (h : IsEntryName name) :
    above (l ++ [name]) = l := by
  unfold above
  split
  next hnone => simp at hnone
  next hparent =>
    obtain rfl : name = ".." := by simpa using hparent
    exact absurd rfl h.2.2.1
  next hroot =>
    obtain rfl : name = "/" := by simpa using hroot
    exact absurd (by decide) h.2.2.2
  next => exact List.dropLast_concat

namespace IsLocation

variable {k l : Location} {names : List String}

theorem working : IsLocation [] :=
  .upwards 0

theorem append (h : IsLocation l) (hnames : ∀ name ∈ names, IsEntryName name) :
    IsLocation (l ++ names) := by
  induction names generalizing l with
  | nil => rwa [List.append_nil]
  | cons name names ih =>
      rw [List.forall_mem_cons] at hnames
      rw [List.append_cons]
      exact ih (.entry h hnames.1) hnames.2

theorem of_start (h : IsLocation l) (hk : k <+: l) : IsLocation k := by
  induction h with
  | root =>
      rcases List.prefix_cons_iff.mp hk with rfl | ⟨rest, rfl, hrest⟩
      · exact .working
      · rw [List.prefix_nil.mp hrest]
        exact .root
  | upwards n =>
      rw [(List.prefix_replicate_iff.mp hk).2]
      exact .upwards _
  | entry holder named ih =>
      rcases List.prefix_concat_iff.mp hk with rfl | hk
      · exact .entry holder named
      · exact ih hk

theorem above (h : IsLocation l) : IsLocation (above l) := by
  cases h with
  | root => exact .root
  | upwards n =>
      cases n with
      | zero => exact .upwards 1
      | succ n =>
          have hlast : (List.replicate (n + 1) "..").getLast? = some ".." := by
            simp [List.getLast?_replicate]
          simp only [Disk.above, hlast, ← List.replicate_succ']
          exact .upwards (n + 2)
  | entry holder named =>
      rw [above_append_name _ named]
      exact holder

/-- What follows in a location is names of entries, unless it starts with the root or a
step upwards. -/
theorem isEntryName (h : IsLocation (l ++ names))
    (hfirst : ∀ first ∈ names.head?, first ≠ ".." ∧ first ≠ "/") :
    ∀ name ∈ names, IsEntryName name := by
  generalize hk : l ++ names = k at h
  induction h generalizing names with
  | root =>
      rcases List.append_eq_singleton_iff.mp hk with ⟨-, rfl⟩ | ⟨-, rfl⟩
      · exact absurd rfl (hfirst "/" rfl).2
      · simp
  | upwards n =>
      cases names with
      | nil => simp
      | cons first rest =>
          have hmem : first ∈ List.replicate n ".." := by simp [← hk]
          exact absurd (List.eq_of_mem_replicate hmem) (hfirst first rfl).1
  | @entry k last holder named ih =>
      rcases List.eq_nil_or_concat names with rfl | ⟨front, name, rfl⟩
      · simp
      · rw [List.concat_eq_append, ← List.append_assoc] at hk
        obtain ⟨hfront, hlast⟩ := List.append_inj' hk rfl
        obtain rfl : name = last := List.singleton_inj.mp hlast
        rw [List.concat_eq_append, List.forall_mem_append, List.forall_mem_singleton]
        refine ⟨ih (fun first hmem => hfirst first ?_) hfront, named⟩
        rw [List.concat_eq_append, List.head?_append, Option.mem_def.mp hmem, Option.some_or]
        rfl

end IsLocation

theorem isLocation_iff {l : Location} : IsLocation l ↔
    ∀ name ∈ if l.head? = some "/" then l.tail else l.dropWhile (· = ".."), IsEntryName name := by
  constructor
  · intro h
    induction h with
    | root => simp
    | upwards n => cases n <;> simp [List.replicate_succ]
    | @entry l name holder named ih =>
        have hone : [name].dropWhile (· = "..") = [name] :=
          List.dropWhile_cons_of_neg (by simpa using named.2.2.1)
        cases l with
        | nil =>
            have hroot : name ≠ "/" := by
              rintro rfl
              exact absurd (by decide) named.2.2.2
            simpa [hroot, hone] using named
        | cons first rest =>
            rw [List.cons_append, List.head?_cons] at *
            split at ih
            next hroot =>
              rw [if_pos hroot, List.tail_cons, List.forall_mem_append, List.forall_mem_singleton]
              exact ⟨ih, named⟩
            next hroot =>
              rw [if_neg hroot, ← List.cons_append, List.dropWhile_append, hone]
              split
              · rwa [List.forall_mem_singleton]
              · rw [List.forall_mem_append, List.forall_mem_singleton]
                exact ⟨ih, named⟩
  · intro h
    split at h
    next hroot =>
      obtain ⟨names, rfl⟩ := List.head?_eq_some_iff.mp hroot
      exact IsLocation.root.append h
    next =>
      have hsteps : l.takeWhile (· = "..") =
          List.replicate (l.takeWhile (· = "..")).length ".." :=
        List.eq_replicate_of_mem fun step hstep => by simpa using List.mem_takeWhile_imp hstep
      rw [← List.takeWhile_append_dropWhile (p := (· = "..")) (l := l), hsteps]
      exact (IsLocation.upwards _).append h

instance (l : Location) : Decidable (IsLocation l) :=
  decidable_of_iff _ isLocation_iff.symm

/-- Names that lead down to a location follow in it. -/
theorem of_namesBelow? {l k : Location} {names : List String} (h : namesBelow? l k = some names) :
    k = l ++ names ∧ names ≠ [] ∧ ∀ first ∈ names.head?, first ≠ ".." ∧ first ≠ "/" := by
  unfold namesBelow? at h
  split at h
  next hstarts =>
    obtain ⟨after, rfl⟩ := List.isPrefixOf_iff_prefix.mp hstarts
    rw [List.drop_left] at h
    split at h
    · cases h
    · cases h
    · cases h
    next hnil hparent hroot =>
      obtain rfl := Option.some.inj h
      refine ⟨rfl, hnil, fun first hfirst => ?_⟩
      obtain ⟨rest, rfl⟩ := List.head?_eq_some_iff.mp hfirst
      exact ⟨fun heq => hparent rest (by rw [heq]), fun heq => hroot rest (by rw [heq])⟩
  next => cases h

theorem namesBelow?_append {l names : Location} (hne : names ≠ [])
    (hnames : ∀ name ∈ names, IsEntryName name) : namesBelow? l (l ++ names) = some names := by
  have hstarts : l.isPrefixOf (l ++ names) = true :=
    List.isPrefixOf_iff_prefix.mpr (List.prefix_append l names)
  rw [namesBelow?, if_pos hstarts, List.drop_left]
  split
  next hnil => exact absurd rfl hne
  next hparent => exact absurd rfl (hnames ".." List.mem_cons_self).2.2.1
  next hroot => exact absurd (by decide) (hnames "/" List.mem_cons_self).2.2.2
  next => rfl

end Rowsmith.Disk
