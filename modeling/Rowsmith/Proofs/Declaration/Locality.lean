/-
# What the reading of a type depends on

The scope of a module is made from its own `use` items before its other items are
looked at. What a written type refers to is therefore a function of three things: the
path of the module, the `use` items that stand directly in it, and the type.
`items_classify_locally` says so of every type that a file declares something with, and
compares two files that differ in `use` items only. The second half is about pairs of
runs: `OnlyImportsDiffer` relates the files, and the runs are compared site by site.
-/

import Rowsmith.Proofs.Declaration.Sites

namespace Rowsmith

open Source Text

/-! ## The `use` items of a module -/

/-- The trees of the `use` items among some items, in order. -/
def importsOf (items : List Item) : List UseTree :=
  items.filterMap fun
    | .imports tree => some tree
    | _ => none

/-- The scope of a module with the given `use` items. -/
def Scope.ofImports (module : String) (trees : List UseTree) : Scope where
  module := module
  bindings := (trees.flatMap (bindingsOfTree [])).reverse

theorem Scope.ofItems_eq_ofImports (module : String) (items : List Item) :
    Scope.ofItems module items = Scope.ofImports module (importsOf items) := by
  have hbindings : bindingsOfItems items = (importsOf items).flatMap (bindingsOfTree []) := by
    induction items with
    | nil => rfl
    | cons i items ih =>
        rw [bindingsOfItems, List.flatMap_cons, ← bindingsOfItems, ih]
        cases i <;> rfl
  rw [Scope.ofItems, Scope.ofImports, hbindings]

/-- What a type refers to in a module with the given path and `use` items. -/
def classification (module : String) (trees : List UseTree) (type : TypeExpr) : TypeRef :=
  (Scope.ofImports module trees).classify type

theorem Site.scope_eq_ofImports (root : String) (s : Site) :
    s.scope root = Scope.ofImports (s.module root) (importsOf s.siblings) :=
  Scope.ofItems_eq_ofImports _ _

/-! ## The types of declarations -/

/-- The types that a declaration of the item says something about: those of named fields, that of
a single unnamed one, and the target of a synonym. -/
def TypeItem.types : TypeItem → List TypeExpr
  | .struct _ _ (.named fields) => fields.map Field.type
  | .struct _ _ (.unnamed [type]) => [type]
  | .synonym _ target => [target]
  | _ => []

/-- What the types of a declaration refer to. -/
def DeclKind.types : DeclKind → List TypeRef
  | .struct fields _ => fields.map FieldDecl.type
  | .newtype inner => [inner]
  | .synonym target => [target]
  | .other => []

theorem Declares.types {scope : Scope} {i : TypeItem} {d : Decl} (h : Declares scope i d) :
    d.kind.types = i.types.map scope.classify := by
  cases h with
  | struct hfields _ =>
      rw [TypeItem.types, DeclKind.types, List.map_map]
      induction hfields with
      | nil => rfl
      | cons hfield _ ih => rw [List.map_cons, List.map_cons, ih, hfield.type, Function.comp]
  | @tuple _ _ types hlength =>
      match types, hlength with
      | [], _ => rfl
      | _ :: _ :: _, _ => rfl
  | newtype => rfl
  | unit => rfl
  | synonym => rfl
  | enum => rfl

/-- The declaration of a site, with its types read from the module of the site alone. -/
structure DeclaresLocally (root : String) (s : Site) (d : Decl) : Prop where
  path : d.path = ⟨s.module root, s.item.name.text⟩
  types : d.kind.types =
    s.item.types.map (classification (s.module root) (importsOf s.siblings))

theorem DeclaresAll.locally {root : String} {items : List Item} {decls : List Decl}
    (h : DeclaresAll root items decls) :
    List.Forall₂ (DeclaresLocally root) (Site.ofItems items) decls := by
  apply List.Forall₂.imp _ h
  intro s d hd
  refine ⟨hd.path, hd.types.trans ?_⟩
  rw [Site.scope_eq_ofImports]
  rfl

/-! ## Files that differ in `use` items -/

/-- Two lists of items that differ in `use` items only, in the modules below them too. A
`use` item that stands elsewhere or that says something else is left out on one side and
added on the other. -/
inductive OnlyImportsDiffer : List Item → List Item → Prop
  | nil : OnlyImportsDiffer [] []
  /-- A `use` item of the first list. -/
  | left {tree : UseTree} {items items' : List Item} :
      OnlyImportsDiffer items items' → OnlyImportsDiffer (.imports tree :: items) items'
  /-- A `use` item of the second list. -/
  | right {tree : UseTree} {items items' : List Item} :
      OnlyImportsDiffer items items' → OnlyImportsDiffer items (.imports tree :: items')
  /-- An item of both lists. -/
  | item {i : Item} {items items' : List Item} :
      OnlyImportsDiffer items items' → OnlyImportsDiffer (i :: items) (i :: items')
  /-- A module that is written out in both lists. -/
  | inline {n : Name} {inner inner' items items' : List Item} :
      OnlyImportsDiffer inner inner' → OnlyImportsDiffer items items' →
      OnlyImportsDiffer (.inline n (some inner) :: items) (.inline n (some inner') :: items')

/-- Sites of one item below the same modules. -/
structure SameSite (s s' : Site) : Prop where
  above : s.above = s'.above
  item : s.item = s'.item

namespace SameSite

variable {root : String} {s s' : Site}

theorem module_eq (h : SameSite s s') (root : String) : s.module root = s'.module root := by
  rw [Site.module, Site.module, h.above]

/-- With the same `use` items around it, a site declares the same. -/
theorem site_eq (h : SameSite s s') (himports : importsOf s.siblings = importsOf s'.siblings) :
    Collect.site root s = Collect.site root s' := by
  rw [Collect.site, Collect.site, Site.scope_eq_ofImports, Site.scope_eq_ofImports,
    h.module_eq root, himports, h.item]

/-- An item of two modules of one path has the same sites in both. -/
theorem ofItem (above : List Name) (siblings siblings' : List Item) (i : Item) :
    List.Forall₂ SameSite (Site.ofItem above siblings i) (Site.ofItem above siblings' i) := by
  have hsingle (item : TypeItem) :
      List.Forall₂ SameSite [⟨above, siblings, item⟩] [⟨above, siblings', item⟩] :=
    .cons ⟨rfl, rfl⟩ .nil
  have hrefl (sites : List Site) : List.Forall₂ SameSite sites sites :=
    List.forall₂_same.mpr fun _ _ => ⟨rfl, rfl⟩
  cases i with
  | struct attributes n fields => exact hsingle (.struct attributes n fields)
  | synonym n target => exact hsingle (.synonym n target)
  | enum n => exact hsingle (.enum n)
  | inline n items =>
      cases items with
      | none => exact .nil
      | some items => exact hrefl (Site.ofItemList (above ++ [n]) items items)
  | imports tree => exact .nil
  | other => exact .nil

theorem ofItemList {items items' : List Item} (h : OnlyImportsDiffer items items')
    (above : List Name) (siblings siblings' : List Item) :
    List.Forall₂ SameSite (Site.ofItemList above siblings items)
      (Site.ofItemList above siblings' items') := by
  -- a `use` item has no site, and the siblings of a site do not tell it from another
  induction h generalizing above siblings siblings' with
  | nil => exact .nil
  | left _ ih => exact ih above siblings siblings'
  | right _ ih => exact ih above siblings siblings'
  | item _ ih =>
      apply List.rel_append
      · exact ofItem above siblings siblings' _
      · exact ih above siblings siblings'
  | inline _ _ ihinner ih =>
      apply List.rel_append
      · exact ihinner _ _ _
      · exact ih above siblings siblings'

/-- Files that differ in `use` items only have the same sites. -/
theorem ofItems {items items' : List Item} (h : OnlyImportsDiffer items items') :
    List.Forall₂ SameSite (Site.ofItems items) (Site.ofItems items') :=
  ofItemList h [] items items'

end SameSite

/-! ## Two runs -/

/-- Sites of one item in two files, with what is declared there. The declarations have
one path, and they are equal where the modules have the same `use` items. -/
structure SameDeclared (x y : Site × Decl) : Prop extends SameSite x.1 y.1 where
  path : x.2.path = y.2.path
  decl : importsOf x.1.siblings = importsOf y.1.siblings → x.2 = y.2

namespace Collect

/-- Whether a type item declares something does not depend on the scope. -/
theorem failsAlike_typeItem (scope scope' : Scope) (i : TypeItem) :
    FailsAlike (typeItem scope i) (typeItem scope' i) := by
  cases i with
  | struct attributes n fields =>
      apply FailsAlike.map
      unfold structKind
      split
      next fields =>
        have hfield (f : Field) : FailsAlike (field scope f) (field scope' f) :=
          FailsAlike.bind (fun _ => Iff.rfl) fun _ _ => .ok _ _
        have hfields := FailsAlike.mapM (List.forall₂_same.mpr fun f (_ : f ∈ fields) => hfield f)
        exact hfields.bind fun _ _ => FailsAlike.bind (fun _ => Iff.rfl) fun _ _ => .ok _ _
      next => exact .ok _ _
      next => exact .ok _ _
  | synonym n target => exact .ok _ _
  | enum n => exact .ok _ _

/-- What is found at two sites of one item. -/
theorem sameDeclared_of_site {root : String} {s s' : Site} {d d' : Decl} (h : SameSite s s')
    (hd : site root s = .ok d) (hd' : site root s' = .ok d') : SameDeclared (s, d) (s', d') where
  toSameSite := h
  path := by
    rw [(declares_of_typeItem hd).path, (declares_of_typeItem hd').path, h.item]
    exact congrArg (TypePath.mk · s'.item.name.text) (h.module_eq root)
  decl himports := Except.ok.inj (hd.symm.trans ((h.site_eq himports).trans hd'))

theorem sameDeclared_of_mapM {root : String} {sites sites' : List Site} {decls decls' : List Decl}
    (h : List.Forall₂ SameSite sites sites') (hdecls : sites.mapM (site root) = .ok decls)
    (hdecls' : sites'.mapM (site root) = .ok decls') :
    List.Forall₂ SameDeclared (sites.zip decls) (sites'.zip decls') := by
  have hfound := mapM_eq_ok_iff.mp hdecls
  have hfound' := mapM_eq_ok_iff.mp hdecls'
  clear hdecls hdecls'
  induction h generalizing decls decls' with
  | nil => exact .nil
  | cons hsite _ ih =>
      cases hfound with
      | cons hd hrest =>
          cases hfound' with
          | cons hd' hrest' =>
              exact .cons (sameDeclared_of_site hsite hd hd') (ih hrest hrest')

/-- Files whose modules have the same `use` items, in any places, are collected alike. -/
theorem mapM_site_eq {root : String} {sites sites' : List Site}
    (h : List.Forall₂ SameSite sites sites')
    (himports : List.Forall₂ (fun s s' => importsOf s.siblings = importsOf s'.siblings)
      sites sites') :
    sites.mapM (site root) = sites'.mapM (site root) := by
  induction h with
  | nil => rfl
  | cons hsite _ ih =>
      cases himports with
      | cons hhead hrest => rw [List.mapM_cons, List.mapM_cons, hsite.site_eq hhead, ih hrest]

end Collect

/-- A file is collected by what each of its modules says alone. The first half says so of the types
of one file; the second compares two files that differ in `use` items only. They fail alike. Where
they succeed, the same is declared at each site whose module keeps its `use` items in order, so
that nothing at all changes if every module does. -/
theorem items_classify_locally (root : String) (set : DeclSet) :
    (∀ items after, Collect.items root set items = .ok after →
      ∃ decls, DeclaresAll root items decls ∧ after = set.insertAll decls ∧
        List.Forall₂ (DeclaresLocally root) (Site.ofItems items) decls) ∧
    ∀ items items', OnlyImportsDiffer items items' →
      FailsAlike (Collect.items root set items) (Collect.items root set items') ∧
      (∀ after after', Collect.items root set items = .ok after →
        Collect.items root set items' = .ok after' →
        ∃ decls decls', (DeclaresAll root items decls ∧ after = set.insertAll decls) ∧
          (DeclaresAll root items' decls' ∧ after' = set.insertAll decls') ∧
          List.Forall₂ SameDeclared ((Site.ofItems items).zip decls)
            ((Site.ofItems items').zip decls')) ∧
      (List.Forall₂ (fun s s' => importsOf s.siblings = importsOf s'.siblings)
          (Site.ofItems items) (Site.ofItems items') →
        Collect.items root set items = Collect.items root set items') := by
  constructor
  · intro items after hafter
    rw [Collect.items_eq_map_mapM] at hafter
    obtain ⟨decls, hdecls, rfl⟩ := map_eq_ok_iff.mp hafter
    have hall := Collect.declaresAll_of_mapM hdecls
    exact ⟨decls, hall, rfl, hall.locally⟩
  · intro items items' hdiffer
    have hsites := SameSite.ofItems hdiffer
    simp only [Collect.items_eq_map_mapM]
    refine ⟨?_, ?_, ?_⟩
    · apply FailsAlike.map
      apply FailsAlike.mapM
      apply hsites.imp
      intro s s' hsite
      rw [Collect.site, Collect.site, hsite.item]
      exact Collect.failsAlike_typeItem _ _ _
    · intro after after' hafter hafter'
      obtain ⟨decls, hdecls, rfl⟩ := map_eq_ok_iff.mp hafter
      obtain ⟨decls', hdecls', rfl⟩ := map_eq_ok_iff.mp hafter'
      exact ⟨decls, decls', ⟨Collect.declaresAll_of_mapM hdecls, rfl⟩,
        ⟨Collect.declaresAll_of_mapM hdecls', rfl⟩,
        Collect.sameDeclared_of_mapM hsites hdecls hdecls'⟩
    · intro himports
      rw [Collect.mapM_site_eq hsites himports]

/-! ## A field before its import -/

/-- The type that a bare name is written as. -/
def bareType (n : Name) : TypeExpr :=
  .path ⟨false, [⟨n, none⟩]⟩ [.name n]

/-- An item `use units::Kilo;`. -/
def kiloImport : Item :=
  .imports (.step ⟨"units", false, by decide⟩ (.leaf ⟨"Kilo", false, by decide⟩))

/-- An item `struct Crop { weight: Kilo }`. -/
def cropItem : Item :=
  .struct [] ⟨"Crop", false, by decide⟩
    (.named [⟨[], ⟨"weight", false, by decide⟩, bareType ⟨"Kilo", false, by decide⟩⟩])

/-- A module that has its own `Kilo`, from where `origin` says. -/
def shedItem (origin : Name) : Item :=
  .inline ⟨"shed", false, by decide⟩ (some
    [ .imports (.step origin (.leaf ⟨"Kilo", false, by decide⟩)),
      .struct [] ⟨"Sack", false, by decide⟩
        (.unnamed [bareType ⟨"Kilo", false, by decide⟩]) ])

/-- A file with its import first. -/
def cropItems : List Item :=
  [kiloImport, cropItem, shedItem ⟨"old", false, by decide⟩]

/-- The file with its import last, and with another import in the module inside. -/
def movedCropItems : List Item :=
  [cropItem, shedItem ⟨"new", false, by decide⟩, kiloImport]

/-- What both declare, up to the module that the inner `Kilo` is in. -/
def cropDecls (module : String) : DeclSet :=
  .insertAll {}
    [ ⟨⟨"crate", "Crop"⟩,
        .struct [⟨"weight", .named ⟨"crate::units", "Kilo"⟩, "Kilo", none, false⟩] false⟩,
      ⟨⟨"crate::shed", "Sack"⟩, .newtype (.named ⟨module, "Kilo"⟩)⟩ ]

theorem items_classify_locally_crop :
    OnlyImportsDiffer cropItems movedCropItems ∧
      Collect.items "crate" .empty cropItems = .ok (cropDecls "crate::shed::old") ∧
      Collect.items "crate" .empty movedCropItems = .ok (cropDecls "crate::shed::new") ∧
      ∃ decls decls',
        (DeclaresAll "crate" cropItems decls ∧
          cropDecls "crate::shed::old" = DeclSet.empty.insertAll decls) ∧
        (DeclaresAll "crate" movedCropItems decls' ∧
          cropDecls "crate::shed::new" = DeclSet.empty.insertAll decls') ∧
        List.Forall₂ SameDeclared ((Site.ofItems cropItems).zip decls)
          ((Site.ofItems movedCropItems).zip decls') := by
  have hdiffer : OnlyImportsDiffer cropItems movedCropItems :=
    .left (.item (.inline (.left (.right (.item .nil))) (.right .nil)))
  have hbefore : Collect.items "crate" .empty cropItems = .ok (cropDecls "crate::shed::old") := by
    decide +kernel
  have hafter :
      Collect.items "crate" .empty movedCropItems = .ok (cropDecls "crate::shed::new") := by
    decide +kernel
  have hlocal := (items_classify_locally "crate" .empty).2 cropItems movedCropItems hdiffer
  exact ⟨hdiffer, hbefore, hafter, hlocal.2.1 _ _ hbefore hafter⟩

end Rowsmith
