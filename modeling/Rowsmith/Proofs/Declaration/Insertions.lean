/-
# What a run of insertions leaves

A set of declarations keeps a list and an index of positions in it. Its type says that the
two are in step. This module says what they have come to when declarations were inserted
one after the other: the list has the paths in the order in which they were first inserted,
and under each path stands the declaration that was inserted there last. Positions, the
size and the declarations of a bare name follow from this.
-/

import Mathlib.Data.Finset.Card
import Rowsmith.Proofs.Declaration.Set

namespace Rowsmith.DeclSet

variable {s : DeclSet} {d : Decl} {path : TypePath} {i : Nat}

/-! ## Reading and writing at a position -/

theorem position?_eq_some_iff_getElem :
    s.position? path = some i ↔ ∃ h : i < s.toList.length, s.toList[i].path = path := by
  rw [position?_eq_some_iff]
  constructor
  · rintro ⟨d, hd, hpath⟩
    obtain ⟨hi, rfl⟩ := List.getElem?_eq_some_iff.mp hd
    exact ⟨hi, hpath⟩
  · rintro ⟨hi, hpath⟩
    exact ⟨_, List.getElem?_eq_getElem hi, hpath⟩

/-- A lookup reads the list at the position of the path, which is in range. -/
theorem get?_of_position? (h : s.position? path = some i) :
    ∃ hi : i < s.toList.length, s.get? path = some s.toList[i] := by
  have hi : i < s.toList.length := position?_lt_size h
  refine ⟨hi, ?_⟩
  rw [get?_eq_bind, h, Option.bind_some]
  exact List.getElem?_eq_getElem hi

/-- There it is written by an insertion under the path. -/
theorem toList_insert_of_position? (h : s.position? d.path = some i) :
    i < s.toList.length ∧ (s.insert d).toList = s.toList.set i d := by
  refine ⟨position?_lt_size h, ?_⟩
  rw [insert_of_position? h, toList, toList]

/-! ## The order of the list -/

/-- An element behind a list is met for the first time if the list does not have it. -/
theorem eraseDups_concat {α : Type} [DecidableEq α] (l : List α) (a : α) :
    (l ++ [a]).eraseDups = l.eraseDups ++ if a ∈ l then [] else [a] := by
  rw [List.eraseDups_append]
  by_cases h : a ∈ l <;> simp [List.removeAll, List.eraseDups_cons, h]

theorem isSome_position?_iff : (s.position? path).isSome ↔ path ∈ s.toList.map Decl.path := by
  rw [Option.isSome_iff_ne_none, ne_eq, position?_eq_none_iff]
  simp [toList]

/-- The paths stand in the order in which they were first inserted. -/
theorem map_path_insertAll (inserted : List Decl) :
    (insertAll {} inserted).toList.map Decl.path = (inserted.map Decl.path).eraseDups := by
  -- from the back, since it is the last insertion that meets a path again or for the first time
  induction inserted using List.reverseRecOn with
  | nil => rfl
  | append_singleton inserted d ih =>
      have hknown : ((insertAll {} inserted).position? d.path).isSome ↔
          d.path ∈ inserted.map Decl.path := by
        rw [isSome_position?_iff, ih, List.mem_eraseDups]
      rw [insertAll_append, insertAll_cons, insertAll_nil, toList, map_path_insert, ← toList, ih,
        List.map_append, List.map_singleton, eraseDups_concat]
      simp only [hknown]

/-- The position of a path is its rank among the paths that were inserted. -/
theorem position?_insertAll_eq_some_iff (inserted : List Decl) :
    (insertAll {} inserted).position? path = some i ↔
      (inserted.map Decl.path).eraseDups[i]? = some path := by
  rw [← map_path_insertAll, position?_eq_some_iff, List.getElem?_map, Option.map_eq_some_iff,
    toList]

/-- There are as many declarations as paths were inserted. -/
theorem size_insertAll (inserted : List Decl) :
    (insertAll {} inserted).size = (inserted.map Decl.path).toFinset.card := by
  have hpaths : ((insertAll {} inserted).toList.map Decl.path).toFinset =
      (inserted.map Decl.path).toFinset := by
    ext path
    rw [List.mem_toFinset, List.mem_toFinset, map_path_insertAll, List.mem_eraseDups]
  have hdistinct : ((insertAll {} inserted).toList.map Decl.path).Nodup := isDistinct _
  rw [← hpaths, List.toFinset_card_of_nodup hdistinct, List.length_map, size, toList]

/-! ## The declarations -/

/-- Under a path the declaration that was inserted there last is found. -/
theorem get?_insertAll_empty (inserted : List Decl) (path : TypePath) :
    (insertAll {} inserted).get? path = (inserted.filter fun d => d.path = path).getLast? := by
  rw [get?_insertAll]
  exact Option.or_none

/-- The declarations are those that were inserted last under their paths. -/
theorem mem_insertAll_iff (inserted : List Decl) :
    d ∈ (insertAll {} inserted).toList ↔
      (inserted.filter fun d' => d'.path = d.path).getLast? = some d := by
  rw [← get?_insertAll_empty, get?_eq_some_iff, and_iff_left rfl, toList]

theorem mem_named_iff {name : String} : d ∈ s.named name ↔ d ∈ s.toList ∧ d.name = name := by
  rw [named, List.mem_filter, decide_eq_true_iff, toList]

theorem named_sublist (s : DeclSet) (name : String) : (s.named name).Sublist s.toList :=
  List.filter_sublist

/-! ## The list and the index -/

/-- The set `s` is what the insertions `inserted` make of the empty set. -/
structure Represents (inserted : List Decl) (s : DeclSet) : Prop where
  /-- The index leads a path to a position exactly when this is in range and the declaration there
  has the path. -/
  indexed : ∀ path i, s.index.lookup path = some i ↔
    ∃ h : i < s.toList.length, s.toList[i].path = path
  /-- The position is the rank of the path in the order of first insertion. -/
  ranked : ∀ path i, s.index.lookup path = some i ↔
    (inserted.map Decl.path).eraseDups[i]? = some path
  distinct : (s.toList.map Decl.path).Nodup
  ordered : s.toList.map Decl.path = (inserted.map Decl.path).eraseDups
  latest : ∀ path, s.get? path = (inserted.filter fun d => d.path = path).getLast?
  mem_iff : ∀ d, d ∈ s.toList ↔ (inserted.filter fun d' => d'.path = d.path).getLast? = some d
  size_eq : s.size = (inserted.map Decl.path).toFinset.card
  mem_named_iff : ∀ name d, d ∈ s.named name ↔ d ∈ s.toList ∧ d.name = name
  named_sublist : ∀ name, (s.named name).Sublist s.toList
  /-- A lookup reads the list in range. -/
  read_inRange : ∀ path i, s.index.lookup path = some i →
    ∃ h : i < s.toList.length, s.get? path = some s.toList[i]
  /-- The next insertion writes it in range. -/
  write_inRange : ∀ d i, s.index.lookup d.path = some i →
    i < s.toList.length ∧ (s.insert d).toList = s.toList.set i d

/-- **The list and the index stay in step.** After any insertions the index leads each path to the
one position at which it stands in the list. Every path that was inserted is there once, in the
order of first insertion, with the declaration that was inserted last under it. -/
theorem insertions_represented (inserted : List Decl) :
    Represents inserted (insertAll {} inserted) where
  indexed _ _ := position?_eq_some_iff_getElem
  ranked _ _ := position?_insertAll_eq_some_iff inserted
  distinct := isDistinct _
  ordered := map_path_insertAll inserted
  latest := get?_insertAll_empty inserted
  mem_iff _ := mem_insertAll_iff inserted
  size_eq := size_insertAll inserted
  mem_named_iff _ _ := mem_named_iff
  named_sublist := named_sublist _
  read_inRange _ _ := get?_of_position?
  write_inRange _ _ := toList_insert_of_position?

/-- A declaration takes the place of an earlier one and leaves the one behind it where it is. -/
example :
    (insertAll {} [⟨⟨"crate", "Flag"⟩, .synonym (.primitive .bool)⟩, ⟨⟨"crate", "Mast"⟩, .other⟩,
      ⟨⟨"crate", "Flag"⟩, .synonym (.primitive .int32)⟩]).toList =
      [⟨⟨"crate", "Flag"⟩, .synonym (.primitive .int32)⟩, ⟨⟨"crate", "Mast"⟩, .other⟩] := by
  decide

end Rowsmith.DeclSet
