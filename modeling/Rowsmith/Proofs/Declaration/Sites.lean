/-
# What a source text declares

The items of a file form a tree, since a module that is written out in the file holds
items itself. `Site.ofItems` lists the structs, synonyms and enums of the tree in the
order in which they are written, each with the modules around it, and `Declares` says
what a declaration of each of them is.

Collecting walks the tree and hands a set of declarations through it.
`items_eq_map_mapM` takes the walk apart: it is the traversal of the list, after
which what was declared goes into the set. `source_inserts_declarations` is the statement about
texts whose attributes can be read.
-/

import Rowsmith.Declaration.Collect
import Rowsmith.Proofs.Declaration.FieldOptions
import Rowsmith.Proofs.Declaration.Set
import Rowsmith.Proofs.Text.Segments
import Rowsmith.Proofs.Traversal

namespace Rowsmith

open Source Text

/-! ## The items that declare something -/

/-- An item that declares a type. -/
inductive TypeItem where
  | struct (attributes : List Attribute) (name : Name) (fields : Source.Fields)
  | synonym (name : Name) (target : TypeExpr)
  | enum (name : Name)

/-- The name of the declared type. -/
def TypeItem.name : TypeItem → Name
  | .struct _ n _ | .synonym n _ | .enum n => n

/-- An item that declares a type, where it stands in a file. -/
structure Site where
  /-- The modules around it that are written out in the file, the outermost first. -/
  above : List Name
  /-- All items of the module that it stands in. -/
  siblings : List Item
  item : TypeItem

namespace Site

mutual

/-- The sites of an item of the module below `above` with the items `siblings`, in order. -/
def ofItem (above : List Name) (siblings : List Item) : Item → List Site
  | .struct attributes n fields => [⟨above, siblings, .struct attributes n fields⟩]
  | .synonym n target => [⟨above, siblings, .synonym n target⟩]
  | .enum n => [⟨above, siblings, .enum n⟩]
  | .inline n (some items) => ofItemList (above ++ [n]) items items
  | _ => []

/-- The sites of some items of that module, in order. -/
def ofItemList (above : List Name) (siblings : List Item) : List Item → List Site
  | [] => []
  | i :: is => ofItem above siblings i ++ ofItemList above siblings is

end

/-- The sites of a file, in order. -/
def ofItems (items : List Item) : List Site :=
  ofItemList [] items items

/-- The module that a site stands in, if the file is the module `root`. -/
def module (root : String) (s : Site) : String :=
  joinSegments (root :: s.above.map Name.text)

/-- The scope of the module that a site stands in. -/
def scope (root : String) (s : Site) : Scope :=
  Scope.ofItems (s.module root) s.siblings

end Site

/-! ## What they declare -/

/-- The paths that an attribute lists. -/
def Source.Attribute.paths? (a : Attribute) : Option (List Source.Path) :=
  match a.body with
  | .arguments tokens => Source.paths? tokens
  | _ => none

/-- The attribute is a `derive` that lists a path to `Entity`. -/
def Source.Attribute.DerivesEntity (a : Attribute) : Prop :=
  a.isNamed "derive" = true ∧ ∃ paths, a.paths? = some paths ∧
    ∃ p ∈ paths, ∃ s, p.segments.getLast? = some s ∧ s.name.written = "Entity"

/-- The declaration of a field: its name without a mark, what its type refers to, its
type as written, and what its attributes list. -/
structure DeclaresField (scope : Scope) (f : Field) (d : FieldDecl) : Prop where
  name : d.name = f.name.text
  type : d.type = scope.classify f.type
  typeText : d.typeText = f.type.text
  options : ∃ options, ListedOption.ListsAll f.attributes options ∧
    d.columnType = (options.filterMap ListedOption.columnType?).getLast? ∧
    d.isIdentity = options.contains .identity

/-- The declaration of a type item. Its shape decides the kind: a struct has named
fields, or exactly one unnamed field, or it is of no use to a column, as an enum is. -/
inductive Declares (scope : Scope) : TypeItem → Decl → Prop
  | struct {attributes : List Attribute} {n : Name} {fields : List Field}
      {decls : List FieldDecl} {marked : Bool} :
      List.Forall₂ (DeclaresField scope) fields decls →
      (marked = true ↔ ∃ a ∈ attributes, a.DerivesEntity) →
      Declares scope (.struct attributes n (.named fields))
        ⟨⟨scope.module, n.text⟩, .struct decls marked⟩
  | newtype {attributes : List Attribute} {n : Name} {type : TypeExpr} :
      Declares scope (.struct attributes n (.unnamed [type]))
        ⟨⟨scope.module, n.text⟩, .newtype (scope.classify type)⟩
  | tuple {attributes : List Attribute} {n : Name} {types : List TypeExpr} :
      types.length ≠ 1 →
      Declares scope (.struct attributes n (.unnamed types)) ⟨⟨scope.module, n.text⟩, .other⟩
  | unit {attributes : List Attribute} {n : Name} :
      Declares scope (.struct attributes n .unit) ⟨⟨scope.module, n.text⟩, .other⟩
  | synonym {n : Name} {target : TypeExpr} :
      Declares scope (.synonym n target)
        ⟨⟨scope.module, n.text⟩, .synonym (scope.classify target)⟩
  | enum {n : Name} : Declares scope (.enum n) ⟨⟨scope.module, n.text⟩, .other⟩

theorem Declares.path {scope : Scope} {i : TypeItem} {d : Decl} (h : Declares scope i d) :
    d.path = ⟨scope.module, i.name.text⟩ := by
  cases h <;> rfl

/-- The declarations `decls` are those of the sites of a file that is the module
`root`, one for each site, in order. -/
def DeclaresAll (root : String) (items : List Item) (decls : List Decl) : Prop :=
  List.Forall₂ (fun s d => Declares (s.scope root) s.item d) (Site.ofItems items) decls

/-- The attributes that say something about a type item can be read: those of named
fields list options, and those that derive list paths. -/
def TypeItem.IsReadable : TypeItem → Prop
  | .struct attributes _ (.named fields) =>
    (∀ f ∈ fields, ∃ options, ListedOption.ListsAll f.attributes options) ∧
      ∀ a ∈ attributes, a.isNamed "derive" = true → a.paths?.isSome = true
  | _ => True

instance (attributes : List Attribute) :
    Decidable (∃ options, ListedOption.ListsAll attributes options) :=
  decidable_of_iff (∃ o ∈ (FieldOptions.ofAttributes attributes).toOption, True) <| by
    simp only [and_true, Option.mem_def]
    constructor
    · rintro ⟨o, ho⟩
      obtain ⟨options, hoptions, -⟩ := FieldOptions.ofAttributes_eq_ok_iff.mp (eq_ok_of_toOption ho)
      exact ⟨options, hoptions⟩
    · rintro ⟨options, hoptions⟩
      exact ⟨_, by rw [FieldOptions.ofAttributes_eq_ok_iff.mpr ⟨options, hoptions, rfl⟩]; rfl⟩

instance : DecidablePred TypeItem.IsReadable
  | .struct attributes _ (.named fields) =>
    inferInstanceAs (Decidable
      ((∀ f ∈ fields, ∃ options, ListedOption.ListsAll f.attributes options) ∧
        ∀ a ∈ attributes, a.isNamed "derive" = true → a.paths?.isSome = true))
  | .struct _ _ (.unnamed _) | .struct _ _ .unit | .synonym _ _ | .enum _ => .isTrue trivial

/-! ## The walk over the tree -/

namespace Collect

/-- What a type item declares, as the walk finds it. -/
def typeItem (scope : Scope) : TypeItem → Except SourceError Decl
  | .struct attributes n fields =>
    (structKind scope attributes fields).map fun kind => ⟨⟨scope.module, n.text⟩, kind⟩
  | .synonym n target => .ok ⟨⟨scope.module, n.text⟩, .synonym (scope.classify target)⟩
  | .enum n => .ok ⟨⟨scope.module, n.text⟩, .other⟩

/-- What a site of a file that is the module `root` declares, as the walk finds it. -/
def site (root : String) (s : Site) : Except SourceError Decl :=
  typeItem (s.scope root) s.item

/-- The scope of the items of a module that is written out in the file. -/
private theorem scope_below (root : String) (above : List Name) (n : Name)
    (items : List Item) :
    Scope.ofItems (joinSegments (root :: above.map Name.text) ++ "::" ++ n.text) items =
      Scope.ofItems (joinSegments (root :: (above ++ [n]).map Name.text)) items := by
  rw [List.map_append, List.map_singleton, ← List.cons_append,
    joinSegments_concat (List.cons_ne_nil _ _)]

private theorem map_mapM_singleton (root : String) (set : DeclSet) (s : Site) :
    ([s].mapM (site root)).map set.insertAll = (site root s).map set.insert := by
  rw [List.mapM_cons, List.mapM_nil]
  cases site root s with
  | error e => rfl
  | ok d => rfl

/-- A traversal of two lists inserts what it finds in the first one before it goes on. -/
private theorem map_mapM_append (root : String) (set : DeclSet) (first later : List Site) :
    ((first ++ later).mapM (site root)).map set.insertAll =
      ((first.mapM (site root)).map set.insertAll >>= fun set' =>
        (later.mapM (site root)).map set'.insertAll) := by
  rw [List.mapM_append]
  cases first.mapM (site root) with
  | error e => rfl
  | ok decls =>
      cases later.mapM (site root) with
      | error e => rfl
      | ok decls' => exact congrArg Except.ok (DeclSet.insertAll_append set decls decls')

mutual

theorem item_eq_map_mapM (root : String) (above : List Name) (siblings : List Item)
    (set : DeclSet) : (i : Item) →
      item (Scope.ofItems (joinSegments (root :: above.map Name.text)) siblings) set i =
        ((Site.ofItem above siblings i).mapM (site root)).map set.insertAll
  | .struct attributes n fields => by
      rw [item, Site.ofItem, map_mapM_singleton, site, typeItem, Site.scope, Site.module]
      generalize structKind _ attributes fields = kind
      cases kind with
      | error e => rfl
      | ok kind => rfl
  | .synonym n target => rfl
  | .enum n => rfl
  | .inline n (some items) => by
      rw [item, Site.ofItem]
      show itemList (Scope.ofItems (joinSegments (root :: above.map Name.text) ++ "::" ++ n.text)
        items) set items = _
      rw [scope_below]
      exact itemList_eq_map_mapM root (above ++ [n]) items set items
  | .inline n none => rfl
  | .imports tree => rfl
  | .other => rfl

theorem itemList_eq_map_mapM (root : String) (above : List Name) (siblings : List Item)
    (set : DeclSet) : (is : List Item) →
      itemList (Scope.ofItems (joinSegments (root :: above.map Name.text)) siblings) set is =
        ((Site.ofItemList above siblings is).mapM (site root)).map set.insertAll
  | [] => rfl
  | i :: is => by
      rw [itemList, Site.ofItemList, map_mapM_append, item_eq_map_mapM root above siblings set i]
      refine congrArg _ (funext fun set' => ?_)
      exact itemList_eq_map_mapM root above siblings set' is

end

/-- Collecting the items of a file is a traversal of its sites, after which what was
declared goes into the set. -/
theorem items_eq_map_mapM (root : String) (set : DeclSet) (is : List Item) :
    items root set is = ((Site.ofItems is).mapM (site root)).map set.insertAll := by
  have hroot : joinSegments (root :: ([] : List Name).map Name.text) = root := by
    simp [joinSegments]
  rw [items, Site.ofItems, ← itemList_eq_map_mapM, hroot]

/-! ## What the walk finds -/

theorem derivesEntity_cons (a : Attribute) (attributes : List Attribute) :
    derivesEntity (a :: attributes) =
      if a.isNamed "derive" then
        match a.paths? with
        | some paths =>
          if paths.any fun p => p.segments.getLast?.any fun s => s.name.written == "Entity" then
            .ok true
          else derivesEntity attributes
        | none => .error .malformed
      else derivesEntity attributes := by
  rw [derivesEntity, Attribute.paths?]
  cases a.body with
  | none => rfl
  | value => rfl
  | arguments tokens => cases Source.paths? tokens <;> rfl

theorem derivesEntity_iff_any {a : Attribute} {paths : List Source.Path}
    (hnamed : a.isNamed "derive" = true) (hpaths : a.paths? = some paths) :
    a.DerivesEntity ↔
      (paths.any fun p => p.segments.getLast?.any fun s => s.name.written == "Entity") = true := by
  simp [Attribute.DerivesEntity, hnamed, hpaths, Option.any_eq_true]

/-- A struct is marked exactly if one of its attributes derives `Entity`. -/
theorem derivesEntity_iff {attributes : List Attribute} {marked : Bool}
    (h : derivesEntity attributes = .ok marked) :
    marked = true ↔ ∃ a ∈ attributes, a.DerivesEntity := by
  induction attributes with
  | nil =>
      cases h
      simp
  | cons a attributes ih =>
      rw [derivesEntity_cons] at h
      rw [List.exists_mem_cons_iff]
      by_cases hnamed : a.isNamed "derive" = true
      · rw [if_pos hnamed] at h
        cases hpaths : a.paths? with
        | none => simp [hpaths] at h
        | some paths =>
            simp only [hpaths] at h
            rw [derivesEntity_iff_any hnamed hpaths]
            split at h
            next hany =>
              cases h
              exact iff_of_true rfl (.inl hany)
            next hany => rw [ih h, or_iff_right hany]
      · rw [if_neg hnamed] at h
        have hother : ¬ a.DerivesEntity := fun hderives => hnamed hderives.1
        rw [ih h, or_iff_right hother]

theorem exists_derivesEntity {attributes : List Attribute}
    (h : ∀ a ∈ attributes, a.isNamed "derive" = true → a.paths?.isSome = true) :
    ∃ marked, derivesEntity attributes = .ok marked := by
  induction attributes with
  | nil => exact ⟨false, rfl⟩
  | cons a attributes ih =>
      obtain ⟨ha, hrest⟩ := List.forall_mem_cons.mp h
      obtain ⟨marked, hmarked⟩ := ih hrest
      rw [derivesEntity_cons]
      split
      next hnamed =>
        obtain ⟨paths, hpaths⟩ := Option.isSome_iff_exists.mp (ha hnamed)
        simp only [hpaths]
        split
        · exact ⟨true, rfl⟩
        · exact ⟨marked, hmarked⟩
      next => exact ⟨marked, hmarked⟩

theorem declaresField_of_field {scope : Scope} {f : Field} {d : FieldDecl}
    (h : field scope f = .ok d) : DeclaresField scope f d := by
  obtain ⟨options, hoptions, h⟩ := bind_eq_ok_iff.mp h
  cases h
  obtain ⟨listed, hlisted, rfl⟩ := FieldOptions.ofAttributes_eq_ok_iff.mp hoptions
  exact ⟨rfl, rfl, rfl, listed, hlisted, rfl, rfl⟩

theorem exists_field {scope : Scope} {f : Field}
    (h : ∃ options, ListedOption.ListsAll f.attributes options) : ∃ d, field scope f = .ok d := by
  obtain ⟨listed, hlisted⟩ := h
  have hoptions := FieldOptions.ofAttributes_eq_ok_iff.mpr ⟨listed, hlisted, rfl⟩
  exact ⟨_, bind_eq_ok_iff.mpr ⟨_, hoptions, rfl⟩⟩

theorem declares_of_typeItem {scope : Scope} {i : TypeItem} {d : Decl}
    (h : typeItem scope i = .ok d) : Declares scope i d := by
  cases i with
  | struct attributes n fields =>
      obtain ⟨kind, hkind, rfl⟩ := map_eq_ok_iff.mp h
      unfold structKind at hkind
      split at hkind
      next fields =>
        obtain ⟨decls, hdecls, hkind⟩ := bind_eq_ok_iff.mp hkind
        obtain ⟨marked, hmarked, hkind⟩ := bind_eq_ok_iff.mp hkind
        cases hkind
        refine .struct ?_ (derivesEntity_iff hmarked)
        exact (mapM_eq_ok_iff.mp hdecls).imp fun _ _ => declaresField_of_field
      next type =>
        cases hkind
        exact .newtype
      next hnamed hone =>
        cases hkind
        cases fields with
        | named fields => exact absurd rfl (hnamed fields)
        | unit => exact .unit
        | unnamed types =>
            apply Declares.tuple
            intro hlength
            obtain ⟨type, rfl⟩ := List.length_eq_one_iff.mp hlength
            exact hone type rfl
  | synonym n target =>
      cases h
      exact .synonym
  | enum n =>
      cases h
      exact .enum

theorem exists_typeItem (scope : Scope) {i : TypeItem} (h : i.IsReadable) :
    ∃ d, typeItem scope i = .ok d := by
  cases i with
  | struct attributes n fields =>
      suffices hkind : ∃ kind, structKind scope attributes fields = .ok kind by
        obtain ⟨kind, hkind⟩ := hkind
        exact ⟨_, map_eq_ok_iff.mpr ⟨kind, hkind, rfl⟩⟩
      unfold structKind
      split
      next fields =>
        obtain ⟨hfields, hderives⟩ := h
        obtain ⟨marked, hmarked⟩ := exists_derivesEntity hderives
        have hall : ∀ f ∈ fields, ∃ d, field scope f = .ok d :=
          fun f hf => exists_field (hfields f hf)
        obtain ⟨decls, hdecls⟩ := exists_mapM_eq_ok_iff.mpr hall
        exact ⟨_, bind_eq_ok_iff.mpr ⟨decls, hdecls, bind_eq_ok_iff.mpr ⟨marked, hmarked, rfl⟩⟩⟩
      next => exact ⟨_, rfl⟩
      next => exact ⟨_, rfl⟩
  | synonym n target => exact ⟨_, rfl⟩
  | enum n => exact ⟨_, rfl⟩

/-- What the traversal of the sites finds is what they declare. -/
theorem declaresAll_of_mapM {root : String} {is : List Item} {decls : List Decl}
    (h : (Site.ofItems is).mapM (site root) = .ok decls) : DeclaresAll root is decls :=
  (mapM_eq_ok_iff.mp h).imp fun _ _ => declares_of_typeItem

end Collect

/-! ## Collecting a text -/

/-- A text whose attributes can be read is collected. What becomes of the set is that the
declarations of the text, one for each struct, synonym and enum, are inserted one after
the other: the last one under each path is found, and declarations of other paths stay
as they are, where they are. -/
theorem source_inserts_declarations {root text : String} {is : List Item} (before : DeclSet)
    (hparse : parseFile? text = some is) (hread : ∀ s ∈ Site.ofItems is, s.item.IsReadable) :
    ∃ decls, DeclaresAll root is decls ∧
      Collect.source root text before = .ok (before.insertAll decls) ∧
      DeclSet.Updates decls before (before.insertAll decls) := by
  obtain ⟨decls, hdecls⟩ := exists_mapM_eq_ok_iff.mpr fun s hs =>
    Collect.exists_typeItem (s.scope root) (hread s hs)
  have hsource : Collect.source root text before = Collect.items root before is := by
    rw [Collect.source, hparse]
  refine ⟨decls, Collect.declaresAll_of_mapM hdecls, ?_, DeclSet.updates_insertAll before decls⟩
  rw [hsource, Collect.items_eq_map_mapM]
  exact map_eq_ok_iff.mpr ⟨decls, hdecls, rfl⟩

/-- A text with a module, a wrapper and two structs of one name, the later one an entity. -/
def orchardText : String :=
  "mod r#yard \x7b struct Height(i32); \x7d
  struct Tree; enum Fruit \x7b\x7d
  #[derive(Entity)] struct Tree \x7b #[dbcrud(id)] key: i64 \x7d"

/-- Its items. -/
def orchardItems : List Item :=
  (parseFile? orchardText).getD []

/-- A set with a declaration under a path of the text. -/
def orchardBefore : DeclSet :=
  .insertAll {} [⟨⟨"crate", "Fruit"⟩, .synonym (.primitive .text)⟩, ⟨⟨"crate", "Fence"⟩, .other⟩]

/-- The set after the text is collected. -/
def orchardAfter : DeclSet :=
  .insertAll {}
    [ ⟨⟨"crate", "Fruit"⟩, .other⟩,
      ⟨⟨"crate", "Fence"⟩, .other⟩,
      ⟨⟨"crate::yard", "Height"⟩, .newtype (.primitive .int32)⟩,
      ⟨⟨"crate", "Tree"⟩, .struct [⟨"key", .primitive .int64, "i64", none, true⟩] true⟩ ]

theorem source_inserts_declarations_orchard :
    parseFile? orchardText = some orchardItems ∧
      (∀ s ∈ Site.ofItems orchardItems, s.item.IsReadable) ∧
      Collect.source "crate" orchardText orchardBefore = .ok orchardAfter ∧
      ∃ decls, DeclaresAll "crate" orchardItems decls ∧
        Collect.source "crate" orchardText orchardBefore = .ok (orchardBefore.insertAll decls) ∧
        DeclSet.Updates decls orchardBefore (orchardBefore.insertAll decls) := by
  -- the text is parsed once for all three
  obtain ⟨hsome, hread, hafter⟩ : (parseFile? orchardText).isSome = true ∧
      (∀ s ∈ Site.ofItems orchardItems, s.item.IsReadable) ∧
      Collect.source "crate" orchardText orchardBefore = .ok orchardAfter := by
    decide +kernel
  have hparse : parseFile? orchardText = some orchardItems := by
    obtain ⟨is, his⟩ := Option.isSome_iff_exists.mp hsome
    rw [orchardItems, his, Option.getD_some]
  exact ⟨hparse, hread, hafter, source_inserts_declarations orchardBefore hparse hread⟩

end Rowsmith
