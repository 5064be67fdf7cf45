/-
# The names of collected declarations

A name in a source text starts with a letter or a low line and goes on with
characters of names. Collecting keeps this: the declarations of source texts and
their fields have such names, whatever the texts are. What is not kept is that
the name is no keyword, since the mark of a raw name is dropped.
-/

import Rowsmith.Command.Sources
import Rowsmith.Proofs.Declaration.Sites
import Rowsmith.Proofs.Text.Words

namespace Rowsmith

open Source Text

/-- A declaration and the fields of a struct have names. -/
structure Decl.IsNamed (d : Decl) : Prop where
  name : IsWord d.name
  fields : ∀ fields marked, d.kind = .struct fields marked → ∀ f ∈ fields, IsWord f.name

/-- All declarations have names. -/
def DeclSet.IsNamed (decls : DeclSet) : Prop :=
  ∀ d ∈ decls.decls, d.IsNamed

theorem DeclSet.IsNamed.insert {decls : DeclSet} {d : Decl} (hdecls : decls.IsNamed)
    (hd : d.IsNamed) : (decls.insert d).IsNamed := by
  intro d' hd'
  rcases mem_of_mem_insert hd' with rfl | hd'
  · exact hd
  · exact hdecls d' hd'

/-- What an item declares has the name of the item, and its fields have the names of fields. -/
theorem Declares.isNamed {scope : Scope} {i : TypeItem} {d : Decl} (h : Declares scope i d) :
    d.IsNamed where
  name := by
    rw [Decl.name, h.path]
    exact i.name.isWord
  fields := by
    intro fields marked hkind f hf
    cases h with
    | struct hfields _ =>
        cases hkind
        obtain ⟨source, -, hsource⟩ := exists_of_mem_of_forall₂ hfields hf
        rw [hsource.name]
        exact source.name.isWord
    | newtype | tuple | unit | synonym | enum => cases hkind

/-- Insertions of declarations with names keep what each of them keeps. -/
theorem DeclSet.insertAll_keeps {p : DeclSet → Prop}
    (hinsert : ∀ decls d, p decls → d.IsNamed → p (decls.insert d)) {set : DeclSet} (hset : p set)
    {decls : List Decl} (hdecls : ∀ d ∈ decls, d.IsNamed) : p (set.insertAll decls) := by
  induction decls generalizing set with
  | nil => exact hset
  | cons d decls ih =>
      obtain ⟨hd, hrest⟩ := List.forall_mem_cons.mp hdecls
      exact ih (hinsert set d hset hd) hrest

/-! ## Collected declarations -/

/-- The declarations of some source texts, read one after the other. -/
inductive Collected : DeclSet → Prop where
  | empty : Collected .empty
  | source {decls decls' : DeclSet} {module text : String} (h : Collected decls)
      (hsource : Collect.source module text decls = .ok decls') : Collected decls'

/-- Collected declarations are as every insertion of a declaration with names keeps them. -/
theorem Collected.induct {p : DeclSet → Prop} (hempty : p .empty)
    (hinsert : ∀ decls d, p decls → d.IsNamed → p (decls.insert d)) {decls : DeclSet}
    (h : Collected decls) : p decls := by
  induction h with
  | empty => exact hempty
  | source _ hsource ih =>
      unfold Collect.source at hsource
      split at hsource
      next is _ =>
        rw [Collect.items_eq_map_mapM] at hsource
        obtain ⟨decls, hdecls, rfl⟩ := map_eq_ok_iff.mp hsource
        apply DeclSet.insertAll_keeps hinsert ih
        intro d hd
        obtain ⟨s, -, hs⟩ := exists_of_mem_of_forall₂ (Collect.declaresAll_of_mapM hdecls) hd
        exact hs.isNamed
      next => cases hsource

theorem Collected.isNamed {decls : DeclSet} (h : Collected decls) : decls.IsNamed := by
  refine h.induct ?_ fun _ _ hdecls hd => hdecls.insert hd
  intro d hd
  cases hd

namespace Command

open Disk

theorem collected_of_collectFiles {d : Disk} {root : String} {files : List String}
    {decls decls' : DeclSet} (hdecls : Collected decls)
    (h : collectFiles d root decls files = .ok decls') : Collected decls' := by
  induction files generalizing decls with
  | nil =>
      cases h
      exact hdecls
  | cons file files ih =>
      unfold collectFiles at h
      split at h
      next => cases h
      next =>
        split at h
        next => cases h
        next hsource => exact ih (hdecls.source hsource) h

/-- The declarations of a source tree are collected from its files. -/
theorem collected_of_collectTree {d : Disk} {root out : String} {decls : DeclSet}
    (h : collectTree d root out = .ok decls) : Collected decls := by
  obtain ⟨files, -, h⟩ := bind_eq_ok_iff.mp h
  exact collected_of_collectFiles .empty h

end Command

end Rowsmith
