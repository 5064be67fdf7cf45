/-
# Payloads as ordered maps

Nothing in a payload says that its names are distinct; it is the way it is built that
keeps them so. A name is set in place if the payload has it and behind all others if not,
so each name stays where it was first set and has the value that it was set to last.
`Holds` says so of the pairs that were set, and `holds_edited` that every payload holds
what was set since it was last made anew, however it was built.
-/

import Mathlib.Data.Finset.Card
import Mathlib.Data.List.Nodup
import Rowsmith.Statement.Fields

namespace Rowsmith

namespace Fields

variable {f : Fields} {name other : String} {v w : Value} {pairs settings : List (String × Value)}

/-! ## Setting a name -/

theorem assign_of_not_mem (h : name ∉ pairs.map Prod.fst) :
    assign name v pairs = pairs ++ [(name, v)] := by
  induction pairs with
  | nil => rfl
  | cons p pairs ih =>
      rw [List.map_cons, List.mem_cons, not_or] at h
      rw [assign, if_neg (Ne.symm h.1), ih h.2, List.cons_append]

/-- A name that is there stays where it is. -/
theorem map_fst_assign_of_mem (h : name ∈ pairs.map Prod.fst) :
    (assign name v pairs).map Prod.fst = pairs.map Prod.fst := by
  induction pairs with
  | nil => simp at h
  | cons p pairs ih =>
      rw [assign]
      split
      · rfl
      · next hne =>
        rw [List.map_cons, List.mem_cons] at h
        rw [List.map_cons, ih (h.resolve_left (Ne.symm hne)), List.map_cons]

theorem lookup_cons_eq :
    ((name, v) :: pairs).lookup other = if other = name then some v else pairs.lookup other := by
  by_cases h : other = name <;> simp [List.lookup_cons, h, beq_eq_false_iff_ne.mpr]

theorem lookup_assign :
    (assign name v pairs).lookup other = if other = name then some v else pairs.lookup other := by
  induction pairs with
  | nil => exact lookup_cons_eq
  | cons p pairs ih =>
      obtain ⟨key, old⟩ := p
      rw [assign]
      by_cases hkey : key = name
      · subst hkey
        rw [if_pos rfl, lookup_cons_eq, lookup_cons_eq]
        split <;> rfl
      · rw [if_neg hkey, lookup_cons_eq, lookup_cons_eq, ih]
        by_cases hother : other = key
        · rw [if_pos hother, if_pos hother, if_neg (hother ▸ hkey)]
        · rw [if_neg hother, if_neg hother]

theorem keys_insert_of_mem (h : name ∈ f.keys) : (f.insert name v).keys = f.keys :=
  map_fst_assign_of_mem h

theorem keys_insert_of_not_mem (h : name ∉ f.keys) : (f.insert name v).keys = f.keys ++ [name] := by
  rw [keys, insert, assign_of_not_mem h, List.map_append]
  rfl

theorem get?_insert :
    (f.insert name v).get? other = if other = name then some v else f.get? other :=
  lookup_assign

theorem mem_keys_insert : other ∈ (f.insert name v).keys ↔ other ∈ f.keys ∨ other = name := by
  by_cases h : name ∈ f.keys
  · rw [keys_insert_of_mem h]
    exact ⟨.inl, fun h' => h'.elim id fun heq => heq ▸ h⟩
  · rw [keys_insert_of_not_mem h, List.mem_append, List.mem_singleton]

theorem get?_eq_none_iff : f.get? name = none ↔ name ∉ f.keys := by
  rw [get?, List.lookup_eq_none_iff]
  simp only [keys, List.mem_map, not_exists, not_and, bne_iff_ne]
  exact forall₂_congr fun p _ => ⟨Ne.symm, Ne.symm⟩

/-- Setting a name does not move another one. -/
theorem idxOf?_keys_insert (h : other ≠ name) :
    (f.insert name v).keys.idxOf? other = f.keys.idxOf? other := by
  by_cases hname : name ∈ f.keys
  · rw [keys_insert_of_mem hname]
  · rw [keys_insert_of_not_mem hname]
    simp only [List.idxOf?, List.findIdx?_append]
    simp [h.symm]

/-- Pairs with names of their own are the entries of their payload. -/
theorem ofList_eq_of_nodup (h : (pairs.map Prod.fst).Nodup) : ofList pairs = ⟨pairs⟩ := by
  -- each pair goes behind those set before it
  have hfold : ∀ before : List (String × Value), ((before ++ pairs).map Prod.fst).Nodup →
      pairs.foldl (fun (f : Fields) p => f.insert p.1 p.2) ⟨before⟩ = ⟨before ++ pairs⟩ := by
    clear h
    induction pairs with
    | nil => simp
    | cons p pairs ih =>
        intro before h
        rw [List.append_cons] at h
        have hnew : p.1 ∉ before.map Prod.fst := by
          have hhead := (List.nodup_append.mp (List.map_append ▸ h)).1
          rw [List.map_append, List.map_cons, List.map_nil, ← List.concat_eq_append,
            List.nodup_concat] at hhead
          exact hhead.1
        rw [List.foldl_cons, insert, assign_of_not_mem hnew, ih _ h, ← List.append_cons]
  exact hfold [] h

/-! ## What was set -/

/-- `v` is what `settings` give `name` last. -/
def SetsLast (settings : List (String × Value)) (name : String) (v : Value) : Prop :=
  ∃ before after, settings = before ++ (name, v) :: after ∧ name ∉ after.map Prod.fst

/-- The payload has one value for each name that `settings` name: the one that they give
it last. The names stand in the order in which they are first set. -/
structure Holds (settings : List (String × Value)) (f : Fields) : Prop where
  distinct : f.keys.Nodup
  named : ∀ name, name ∈ f.keys ↔ name ∈ settings.map Prod.fst
  ordered : f.keys.Pairwise fun first second =>
    (settings.map Prod.fst).idxOf first < (settings.map Prod.fst).idxOf second
  latest : ∀ name v, f.get? name = some v ↔ SetsLast settings name v

theorem setsLast_append_singleton :
    SetsLast (settings ++ [(name, v)]) other w ↔
      if other = name then w = v else SetsLast settings other w := by
  constructor
  · rintro ⟨before, after, heq, hafter⟩
    rcases List.eq_nil_or_concat after with rfl | ⟨after, last, rfl⟩
    · obtain ⟨-, hlast⟩ := List.append_inj' heq rfl
      obtain ⟨rfl, rfl⟩ : name = other ∧ v = w := by simpa using hlast
      rw [if_pos rfl]
    · rw [List.concat_eq_append, ← List.cons_append, ← List.append_assoc] at heq
      obtain ⟨hsettings, hlast⟩ := List.append_inj' heq rfl
      obtain rfl : (name, v) = last := by simpa using hlast
      simp only [List.concat_eq_append, List.map_append, List.mem_append, not_or] at hafter
      rw [if_neg (by simpa using hafter.2)]
      exact ⟨before, after, hsettings, hafter.1⟩
  · split
    · next heq =>
      rintro rfl
      subst heq
      exact ⟨settings, [], rfl, by simp⟩
    · next hne =>
      rintro ⟨before, after, rfl, hafter⟩
      refine ⟨before, after ++ [(name, v)], by simp, ?_⟩
      simp [hne, hafter]

namespace Holds

theorem empty : Holds [] empty where
  distinct := .nil
  named _ := .rfl
  ordered := .nil
  latest name v := by simp [SetsLast, get?, Fields.empty]

/-- One more name is set. -/
theorem insert (h : Holds settings f) (name : String) (v : Value) :
    Holds (settings ++ [(name, v)]) (f.insert name v) := by
  have hkept : ∀ first ∈ f.keys,
      ((settings ++ [(name, v)]).map Prod.fst).idxOf first =
        (settings.map Prod.fst).idxOf first := by
    intro first hfirst
    rw [List.map_append, List.idxOf_append_of_mem ((h.named first).mp hfirst)]
  have hordered : f.keys.Pairwise fun first second =>
      ((settings ++ [(name, v)]).map Prod.fst).idxOf first <
        ((settings ++ [(name, v)]).map Prod.fst).idxOf second :=
    h.ordered.imp_of_mem fun hfirst hsecond hlt => by rwa [hkept _ hfirst, hkept _ hsecond]
  refine ⟨?_, fun other => ?_, ?_, fun other w => ?_⟩
  · by_cases hname : name ∈ f.keys
    · rw [keys_insert_of_mem hname]
      exact h.distinct
    · rw [keys_insert_of_not_mem hname, ← List.concat_eq_append, List.nodup_concat]
      exact ⟨hname, h.distinct⟩
  · rw [mem_keys_insert, h.named]
    simp
  · by_cases hname : name ∈ f.keys
    · rwa [keys_insert_of_mem hname]
    · -- a new name is first set behind all settings so far
      rw [keys_insert_of_not_mem hname, List.pairwise_append]
      refine ⟨hordered, List.pairwise_singleton _ _, fun first hfirst second hsecond => ?_⟩
      obtain rfl := List.mem_singleton.mp hsecond
      have hnew : second ∉ settings.map Prod.fst := fun hin => hname ((h.named second).mpr hin)
      have hlt := List.idxOf_lt_length_of_mem ((h.named first).mp hfirst)
      rw [hkept first hfirst, List.map_append, List.idxOf_append_of_notMem hnew]
      omega
  · rw [get?_insert, setsLast_append_singleton]
    split
    · exact ⟨fun heq => (Option.some.inj heq).symm, fun heq => heq ▸ rfl⟩
    · exact h.latest other w

/-- A list of names is set, one after the other. -/
theorem insertAll (h : Holds settings f) (pairs : List (String × Value)) :
    Holds (settings ++ pairs) (pairs.foldl (fun f p => f.insert p.1 p.2) f) := by
  induction pairs generalizing settings f with
  | nil => rwa [List.append_nil]
  | cons p pairs ih =>
      rw [List.append_cons]
      exact ih (h.insert p.1 p.2)

theorem ofList (pairs : List (String × Value)) : Holds pairs (ofList pairs) :=
  empty.insertAll pairs

theorem get?_eq_none_iff (h : Holds settings f) :
    f.get? name = none ↔ name ∉ settings.map Prod.fst := by
  rw [Fields.get?_eq_none_iff, h.named]

/-- There are as many fields as names were set. -/
theorem size_eq (h : Holds settings f) :
    f.size = (settings.map Prod.fst).toFinset.card := by
  have hnames : f.keys.toFinset = (settings.map Prod.fst).toFinset := by
    ext name
    rw [List.mem_toFinset, List.mem_toFinset, h.named]
  rw [← hnames, List.toFinset_card_of_nodup h.distinct, keys, List.length_map, size]

/-- Setting the fields of a payload again, in order, makes the same payload. -/
theorem ofList_toList (h : Holds settings f) : Fields.ofList f.toList = f :=
  ofList_eq_of_nodup h.distinct

end Holds

/-! ## Building a payload -/

/-- What is done to a payload. -/
inductive Edit where
  /-- Starts anew, without fields. -/
  | start
  /-- Sets a name, whether in place or on the way through a builder. -/
  | set (name : String) (v : Value)
  /-- Starts anew with the pairs of a list. -/
  | collect (pairs : List (String × Value))

/-- The payload after an edit. -/
def edit (f : Fields) : Edit → Fields
  | .start => empty
  | .set name v => f.insert name v
  | .collect pairs => ofList pairs

/-- The payload after some edits. -/
def edited (edits : List Edit) : Fields :=
  edits.foldl edit empty

/-- What was set since the payload was last made anew, after one more edit. -/
def record (settings : List (String × Value)) : Edit → List (String × Value)
  | .start => []
  | .set name v => settings ++ [(name, v)]
  | .collect pairs => pairs

/-- The pairs that were set since the payload was last made anew, in order. -/
def settingsOf (edits : List Edit) : List (String × Value) :=
  edits.foldl record []

theorem Holds.edit (h : Holds settings f) (e : Edit) : Holds (record settings e) (f.edit e) := by
  cases e with
  | start => exact .empty
  | set name v => exact h.insert name v
  | collect pairs => exact .ofList pairs

/-- **However it was built, a payload holds what was set since it was last made anew.** -/
theorem holds_edited (edits : List Edit) : Holds (settingsOf edits) (edited edits) := by
  have hfold : ∀ settings f, Holds settings f →
      Holds (edits.foldl record settings) (edits.foldl Fields.edit f) := by
    induction edits with
    | nil => exact fun settings f h => h
    | cons e edits ih => exact fun settings f h => ih _ _ (h.edit e)
  exact hfold [] empty .empty

end Fields

end Rowsmith
