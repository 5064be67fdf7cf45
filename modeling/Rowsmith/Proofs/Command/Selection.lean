/-
# The entities of a source tree

An entity is a declaration that is marked, or that is listed by its bare name. Four
things are asked for, one after the other: that every listed name is declared, that
what is listed are structs, that every entity can be compiled, and that no two
entities have tables of one name. `generates_iff` says that files are emitted exactly
if all of this holds, which files these are, and which error there is if it does not.
-/

import Rowsmith.Proofs.Command.Stages
import Rowsmith.Proofs.Declaration.Names

namespace Rowsmith

namespace Decl

/-- The declaration is a struct with named fields. -/
def IsStruct (d : Decl) : Prop :=
  ∃ fields marked, d.kind = .struct fields marked

/-- The name of the table that an entity has, see `Table.name_of_compile`. -/
def tableName (d : Decl) : String :=
  Text.snakeCase d.name

theorem isStruct_of_isMarked {d : Decl} (h : d.isMarked = true) : d.IsStruct := by
  unfold isMarked at h
  split at h
  next fields marked hkind => exact ⟨fields, marked, hkind⟩
  next => cases h

end Decl

namespace Table

variable {decls : DeclSet} {textBound : Nat} {d : Decl} {t : Table}

theorem name_of_compile (h : compile decls textBound d = .ok t) : t.name = d.tableName := by
  obtain ⟨fields, marked, k, -, htable⟩ := compile_eq_ok_iff.mp h
  exact htable.name

theorem entity_of_compile (h : compile decls textBound d = .ok t) : t.entity = d.path := by
  obtain ⟨fields, marked, k, -, htable⟩ := compile_eq_ok_iff.mp h
  exact htable.path

end Table

namespace Command

open Code Disk

/-! ## First failures -/

section

variable {α β ε : Type} {p : α → Prop} {x y : α} {xs : List α}

/-- The first member of a list of which `p` does not hold. -/
def IsFirstWithout (p : α → Prop) (xs : List α) (x : α) : Prop :=
  ∃ before after, xs = before ++ x :: after ∧ (∀ y ∈ before, p y) ∧ ¬ p x

theorem not_isFirstWithout_nil : ¬ IsFirstWithout p [] x := by
  rintro ⟨before, after, hnil, -⟩
  exact List.append_ne_nil_of_right_ne_nil before (List.cons_ne_nil x after) hnil.symm

theorem isFirstWithout_cons_of_pos (hy : p y) :
    IsFirstWithout p (y :: xs) x ↔ IsFirstWithout p xs x := by
  constructor
  · rintro ⟨before, after, heq, hbefore, hx⟩
    cases before with
    | nil =>
        obtain ⟨rfl, -⟩ := List.cons.inj heq
        exact absurd hy hx
    | cons z before =>
        exact ⟨before, after, (List.cons.inj heq).2,
          fun w hw => hbefore w (List.mem_cons_of_mem z hw), hx⟩
  · rintro ⟨before, after, rfl, hbefore, hx⟩
    exact ⟨y :: before, after, rfl, List.forall_mem_cons.mpr ⟨hy, hbefore⟩, hx⟩

theorem isFirstWithout_cons_of_neg (hy : ¬ p y) : IsFirstWithout p (y :: xs) x ↔ x = y := by
  constructor
  · rintro ⟨before, after, heq, hbefore, -⟩
    cases before with
    | nil => exact (List.cons.inj heq).1.symm
    | cons z before =>
        obtain ⟨rfl, -⟩ := List.cons.inj heq
        exact absurd (hbefore y List.mem_cons_self) hy
  · rintro rfl
    exact ⟨[], xs, rfl, by simp, hy⟩

theorem find?_eq_some_iff_first {q : α → Bool} (hq : ∀ x, q x = true ↔ ¬ p x) :
    xs.find? q = some x ↔ IsFirstWithout p xs x := by
  have hpass : ∀ y, (!q y) = true ↔ p y := by
    intro y
    rw [Bool.not_eq_true', ← Bool.not_eq_true, hq, not_not]
  simp only [List.find?_eq_some_iff_append, hq, hpass]
  constructor
  · rintro ⟨hx, before, after, rfl, hbefore⟩
    exact ⟨before, after, rfl, hbefore, hx⟩
  · rintro ⟨before, after, rfl, hbefore, hx⟩
    exact ⟨hx, before, after, rfl, hbefore⟩

/-- A function has a result for a value. -/
def HasResult (f : α → Except ε β) (x : α) : Prop :=
  ∃ b, f x = .ok b

/-- A traversal fails with the error at the first member that has no result. -/
theorem mapM_eq_error_iff_first {f : α → Except ε β} {e : ε} :
    xs.mapM f = .error e ↔ ∃ x, IsFirstWithout (HasResult f) xs x ∧ f x = .error e := by
  induction xs with
  | nil => simp [not_isFirstWithout_nil, pure, Except.pure]
  | cons y ys ih =>
      rw [List.mapM_cons, bind_eq_error_iff]
      cases hy : f y with
      | error e' =>
          have hnone : ¬ HasResult f y := by simp [HasResult, hy]
          simp [isFirstWithout_cons_of_neg hnone, hy]
      | ok b =>
          have hsome : HasResult f y := ⟨b, hy⟩
          simp [isFirstWithout_cons_of_pos hsome, ← ih, bind_eq_error_iff, pure, Except.pure]

end

/-! ## Selection -/

/-- The declarations of a set that are marked or listed, in the order of their discovery. -/
def chosen (set : DeclSet) (listed : List String) : List Decl :=
  set.toList.filter fun d => d.isMarked || listed.contains d.name

/-- The name is that of a declaration in some module. -/
def IsDeclared (set : DeclSet) (name : String) : Prop :=
  ∃ d ∈ set.toList, d.name = name

/-- The declaration is a struct if it is listed. -/
def IsListable (listed : List String) (d : Decl) : Prop :=
  d.name ∈ listed → d.IsStruct

/-- Every listed name is declared, and what is listed are structs. -/
@[mk_iff]
structure IsSelectable (set : DeclSet) (listed : List String) : Prop where
  declared : ∀ name ∈ listed, IsDeclared set name
  structs : ∀ d ∈ set.toList, IsListable listed d

variable {set : DeclSet} {listed : List String}

theorem selectEntities_cons_of_isListable {d : Decl} {ds : List Decl} (h : IsListable listed d) :
    selectEntities listed (d :: ds) =
      if d.isMarked || listed.contains d.name then (selectEntities listed ds).map (d :: ·)
      else selectEntities listed ds := by
  rw [selectEntities]
  split
  next hchosen =>
    rw [Bool.or_eq_true, List.contains_iff_mem] at hchosen
    obtain ⟨fields, marked, hkind⟩ := hchosen.elim Decl.isStruct_of_isMarked h
    simp only [hkind]
  next => rfl

theorem selectEntities_cons_of_not_isListable {d : Decl} {ds : List Decl}
    (h : ¬ IsListable listed d) :
    selectEntities listed (d :: ds) = .error (.notAStruct d.name) := by
  obtain ⟨hlisted, hstruct⟩ := Classical.not_imp.mp h
  rw [selectEntities, if_pos (by simp [hlisted])]
  split
  next fields marked hkind => exact absurd ⟨fields, marked, hkind⟩ hstruct
  next => rfl

/-- Declarations are selected if those that are listed are structs, and otherwise the
first that is not is refused. -/
theorem selectEntities_eq_ok_iff {ds selected : List Decl} :
    selectEntities listed ds = .ok selected ↔ (∀ d ∈ ds, IsListable listed d) ∧
      selected = ds.filter fun d => d.isMarked || listed.contains d.name := by
  induction ds generalizing selected with
  | nil => simp [selectEntities, eq_comm]
  | cons d ds ih =>
      by_cases hd : IsListable listed d
      · rw [selectEntities_cons_of_isListable hd, List.forall_mem_cons, and_iff_right hd,
          List.filter_cons]
        split
        · simp only [map_eq_ok_iff, ih]
          constructor
          · rintro ⟨_, ⟨hds, rfl⟩, rfl⟩
            exact ⟨hds, rfl⟩
          · rintro ⟨hds, rfl⟩
            exact ⟨_, ⟨hds, rfl⟩, rfl⟩
        · exact ih
      · rw [selectEntities_cons_of_not_isListable hd, List.forall_mem_cons]
        simp [hd]

theorem selectEntities_eq_error_iff {ds : List Decl} {e : CompileError} :
    selectEntities listed ds = .error e ↔
      ∃ d, IsFirstWithout (IsListable listed) ds d ∧ e = .notAStruct d.name := by
  induction ds with
  | nil => simp [selectEntities, not_isFirstWithout_nil]
  | cons d ds ih =>
      by_cases hd : IsListable listed d
      · rw [selectEntities_cons_of_isListable hd]
        simp only [isFirstWithout_cons_of_pos hd, ← ih]
        split
        · exact map_eq_error_iff
        · rfl
      · rw [selectEntities_cons_of_not_isListable hd]
        simp [isFirstWithout_cons_of_neg hd, eq_comm]

theorem isEmpty_named_iff (name : String) :
    (set.named name).isEmpty = true ↔ ¬ IsDeclared set name := by
  simp [DeclSet.named, IsDeclared, DeclSet.toList]

theorem find?_undeclared_eq_none_iff :
    (listed.find? fun name => (set.named name).isEmpty) = none ↔
      ∀ name ∈ listed, IsDeclared set name := by
  simp only [List.find?_eq_none, isEmpty_named_iff, not_not]

theorem entities_eq_ok_iff {selected : List Decl} :
    entities set listed = .ok selected ↔
      IsSelectable set listed ∧ selected = chosen set listed := by
  rw [entities]
  split
  next name hname =>
    have hdeclared : ¬ ∀ name ∈ listed, IsDeclared set name := by
      rw [← find?_undeclared_eq_none_iff, hname]
      exact Option.some_ne_none name
    simp [isSelectable_iff, hdeclared]
  next hnone =>
    have hdeclared := find?_undeclared_eq_none_iff.mp hnone
    rw [mapError_eq_ok_iff, selectEntities_eq_ok_iff, isSelectable_iff, and_iff_right hdeclared]
    rfl

theorem entities_eq_error_iff {e : GenerationError} :
    entities set listed = .error e ↔
      (∃ name, IsFirstWithout (IsDeclared set) listed name ∧ e = .undeclared name) ∨
        (∀ name ∈ listed, IsDeclared set name) ∧
          ∃ d, IsFirstWithout (IsListable listed) set.toList d ∧
            e = .compile (.notAStruct d.name) := by
  rw [entities]
  split
  next name hname =>
    have hdeclared : ¬ ∀ name ∈ listed, IsDeclared set name := by
      rw [← find?_undeclared_eq_none_iff, hname]
      exact Option.some_ne_none name
    simp only [← find?_eq_some_iff_first isEmpty_named_iff, hname, hdeclared, false_and, or_false,
      Option.some.injEq, exists_eq_left', Except.error.injEq, eq_comm]
  next hnone =>
    have hdeclared := find?_undeclared_eq_none_iff.mp hnone
    simp only [← find?_eq_some_iff_first isEmpty_named_iff, hnone, reduceCtorEq, false_and,
      exists_false, false_or, and_iff_right hdeclared, mapError_eq_error_iff,
      selectEntities_eq_error_iff]
    constructor
    · rintro ⟨_, ⟨d, hd, rfl⟩, rfl⟩
      exact ⟨d, hd, rfl⟩
    · rintro ⟨d, hd, rfl⟩
      exact ⟨_, ⟨d, hd, rfl⟩, rfl⟩

/-! ## Tables -/

/-- Compiles a declaration of a set as a run does. -/
abbrev compileIn (set : DeclSet) : Decl → Except CompileError Table :=
  Table.compile set ColumnType.defaultTextBound

/-- Every entity of a set can be compiled, and no two have tables of one name. -/
structure IsGenerable (set : DeclSet) (listed : List String) : Prop
    extends IsSelectable set listed where
  compiled : ∀ d ∈ chosen set listed, HasResult (compileIn set) d
  apart : ((chosen set listed).map Decl.tableName).Nodup

/-- What is refused in a set of declarations, each with its error. Nothing that is
looked at earlier is refused. -/
inductive Refuses (set : DeclSet) (listed : List String) : GenerationError → Prop where
  | undeclared {name : String} (hfirst : IsFirstWithout (IsDeclared set) listed name) :
      Refuses set listed (.undeclared name)
  | notAStruct {d : Decl} (hdeclared : ∀ name ∈ listed, IsDeclared set name)
      (hfirst : IsFirstWithout (IsListable listed) set.toList d) :
      Refuses set listed (.compile (.notAStruct d.name))
  | compilation {d : Decl} {e : CompileError} (hselectable : IsSelectable set listed)
      (hfirst : IsFirstWithout (HasResult (compileIn set)) (chosen set listed) d)
      (herror : compileIn set d = .error e) : Refuses set listed (.compile e)
  /-- The second entity is the first that has the table of one before it. -/
  | sameTable {before after : List Decl} {first second : Decl}
      (hselectable : IsSelectable set listed)
      (hcompiled : ∀ d ∈ chosen set listed, HasResult (compileIn set) d)
      (hchosen : chosen set listed = before ++ second :: after)
      (hbefore : (before.map Decl.tableName).Nodup) (hfirst : first ∈ before)
      (hname : first.tableName = second.tableName) :
      Refuses set listed (.sameTable first.path second.path second.tableName)

section

variable {ds : List Decl} {ts : List Table}

/-- Tables have the names that their entities ask for. -/
theorem map_name_of_compile (h : ds.mapM (compileIn set) = .ok ts) :
    ts.map Table.name = ds.map Decl.tableName := by
  induction mapM_eq_ok_iff.mp h with
  | nil => rfl
  | cons hhead hrest ih =>
      rw [List.map_cons, List.map_cons, Table.name_of_compile hhead, ih (mapM_eq_ok_iff.mpr hrest)]

/-- Tables in two parts are compiled from entities in two parts. -/
theorem exists_parts_of_compile {before after : List Table}
    (h : ds.mapM (compileIn set) = .ok (before ++ after)) :
    ∃ ds₁ ds₂, ds = ds₁ ++ ds₂ ∧ ds₁.mapM (compileIn set) = .ok before ∧
      ds₂.mapM (compileIn set) = .ok after := by
  have hall := mapM_eq_ok_iff.mp h
  exact ⟨ds.take before.length, ds.drop before.length, (List.take_append_drop _ _).symm,
    mapM_eq_ok_iff.mpr (List.forall₂_take_append _ _ _ hall),
    mapM_eq_ok_iff.mpr (List.forall₂_drop_append _ _ _ hall)⟩

/-- Tables of entities that can be compiled are refused at the first entity that has the
table of one before it. -/
theorem checkNames_eq_error_iff_of_compile (hts : ds.mapM (compileIn set) = .ok ts)
    {e : GenerationError} :
    checkNames [] ts = .error e ↔ ∃ before second after first,
      ds = before ++ second :: after ∧ (before.map Decl.tableName).Nodup ∧ first ∈ before ∧
        first.tableName = second.tableName ∧
        e = .sameTable first.path second.path second.tableName := by
  rw [checkNames_nil_eq_error_iff]
  constructor
  · rintro ⟨ts₁, t₂, ts₂, t₁, rfl, hdistinct, ht₁, hname, rfl⟩
    obtain ⟨before, rest, rfl, hts₁, hrest⟩ := exists_parts_of_compile hts
    obtain ⟨second, after, hsecond, -, rfl⟩ :=
      List.forall₂_cons_right_iff.mp (mapM_eq_ok_iff.mp hrest)
    obtain ⟨first, hmem, hfirst⟩ := exists_of_mem_mapM hts₁ ht₁
    refine ⟨before, second, after, first, rfl, ?_, hmem, ?_, ?_⟩
    · rwa [← map_name_of_compile hts₁]
    · rwa [← Table.name_of_compile hfirst, ← Table.name_of_compile hsecond]
    · rw [Table.entity_of_compile hfirst, Table.entity_of_compile hsecond,
        Table.name_of_compile hsecond]
  · rintro ⟨before, second, after, first, rfl, hdistinct, hmem, hname, rfl⟩
    rw [List.mapM_append] at hts
    obtain ⟨ts₁, hts₁, hts⟩ := bind_eq_ok_iff.mp hts
    obtain ⟨_, hrest, ⟨⟩⟩ := bind_eq_ok_iff.mp hts
    obtain ⟨t₂, ts₂, hsecond, -, rfl⟩ := List.forall₂_cons_left_iff.mp (mapM_eq_ok_iff.mp hrest)
    obtain ⟨t₁, ht₁, hfirst⟩ := exists_mem_of_mapM hts₁ hmem
    refine ⟨ts₁, t₂, ts₂, t₁, rfl, ?_, ht₁, ?_, ?_⟩
    · rwa [map_name_of_compile hts₁]
    · rwa [Table.name_of_compile hfirst, Table.name_of_compile hsecond]
    · rw [Table.entity_of_compile hfirst, Table.entity_of_compile hsecond,
        Table.name_of_compile hsecond]

end

/-! ## Generation -/

variable {d : Disk} {root out : String}

theorem tables_eq_ok_iff (hset : collectTree d root out = .ok set) {ts : List Table} :
    tables d root out listed = .ok ts ↔
      IsGenerable set listed ∧ (chosen set listed).mapM (compileIn set) = .ok ts := by
  simp only [tables, bind_eq_ok_iff, mapError_eq_ok_iff, hset, entities_eq_ok_iff]
  constructor
  · rintro ⟨_, ⟨⟩, _, ⟨hselectable, rfl⟩, _, hts, ⟨⟩, hcheck, ⟨⟩⟩
    have hdistinct := checkNames_nil_eq_ok_iff.mp hcheck
    rw [map_name_of_compile hts] at hdistinct
    exact ⟨⟨hselectable, exists_mapM_eq_ok_iff.mp ⟨_, hts⟩, hdistinct⟩, hts⟩
  · rintro ⟨hgenerable, hts⟩
    have hdistinct := hgenerable.apart
    rw [← map_name_of_compile hts] at hdistinct
    exact ⟨set, rfl, _, ⟨hgenerable.toIsSelectable, rfl⟩, ts, hts, (),
      checkNames_nil_eq_ok_iff.mpr hdistinct, rfl⟩

theorem tables_eq_error_iff_refuses (hset : collectTree d root out = .ok set)
    {e : GenerationError} : tables d root out listed = .error e ↔ Refuses set listed e := by
  simp only [tables, bind_eq_error_iff, mapError_eq_error_iff, mapError_eq_ok_iff, hset,
    entities_eq_error_iff, entities_eq_ok_iff]
  constructor
  · rintro (⟨_, ⟨⟩, -⟩ | ⟨_, ⟨⟩, (⟨name, hfirst, rfl⟩ | ⟨hdeclared, entity, hfirst, rfl⟩) | hrest⟩)
    · exact .undeclared hfirst
    · exact .notAStruct hdeclared hfirst
    · obtain ⟨_, ⟨hselectable, rfl⟩, ⟨e, herror, rfl⟩ | ⟨ts, hts, hclash | ⟨-, -, hdone⟩⟩⟩ := hrest
      · obtain ⟨entity, hfirst, herror⟩ := mapM_eq_error_iff_first.mp herror
        exact .compilation hselectable hfirst herror
      · obtain ⟨before, second, after, first, hchosen, hbefore, hfirst, hname, rfl⟩ :=
          (checkNames_eq_error_iff_of_compile hts).mp hclash
        exact .sameTable hselectable (exists_mapM_eq_ok_iff.mp ⟨_, hts⟩) hchosen hbefore hfirst
          hname
      · cases hdone
  · intro h
    cases h with
    | undeclared hfirst => exact .inr ⟨set, rfl, .inl (.inl ⟨_, hfirst, rfl⟩)⟩
    | notAStruct hdeclared hfirst =>
        exact .inr ⟨set, rfl, .inl (.inr ⟨hdeclared, _, hfirst, rfl⟩)⟩
    | compilation hselectable hfirst herror =>
        have hmap := mapM_eq_error_iff_first.mpr ⟨_, hfirst, herror⟩
        exact .inr ⟨set, rfl, .inr ⟨_, ⟨hselectable, rfl⟩, .inl ⟨_, hmap, rfl⟩⟩⟩
    | sameTable hselectable hcompiled hchosen hbefore hfirst hname =>
        obtain ⟨ts, hts⟩ := exists_mapM_eq_ok_iff.mpr hcompiled
        have hclash := (checkNames_eq_error_iff_of_compile hts).mpr
          ⟨_, _, _, _, hchosen, hbefore, hfirst, hname, rfl⟩
        exact .inr ⟨set, rfl, .inr ⟨_, ⟨hselectable, rfl⟩, .inr ⟨ts, hts, .inl hclash⟩⟩⟩

/-- The declarations of a set are different, and so are those that are chosen. -/
theorem nodup_chosen : (chosen set listed).Nodup :=
  (set.isDistinct.of_map _).filter _

/-- Files are emitted for a source tree exactly if its declarations are as they are asked
for. The files are then those of the tables of its entities, each of them taken once and
in the order of their discovery, and after them the module that names all tables if
functions are asked for and there is an entity. If no files are emitted then the error
is that for what is refused first. -/
theorem generates_iff (hset : collectTree d root out = .ok set) (listed : List String)
    (o : Options) :
    ((∃ files, generate d root out listed o = .ok files) ↔ IsGenerable set listed) ∧
      (chosen set listed).Nodup ∧
      (∀ files, generate d root out listed o = .ok files → ∃ ts,
        List.Forall₂ (fun entity t => compileIn set entity = .ok t) (chosen set listed) ts ∧
        files = ts.flatMap (fun t => tableFiles t o out) ++
          if o.crud = true ∧ chosen set listed ≠ [] then [rootFile ts out] else []) ∧
      ∀ e, generate d root out listed o = .error e ↔ Refuses set listed e := by
  have hok : ∀ files, generate d root out listed o = .ok files ↔ ∃ ts,
      (IsGenerable set listed ∧ (chosen set listed).mapM (compileIn set) = .ok ts) ∧
        files = filesFor ts o out := by
    intro files
    rw [generate_eq_ok_iff]
    simp only [tables_eq_ok_iff hset]
  refine ⟨⟨?_, fun hgenerable => ?_⟩, nodup_chosen, fun files hfiles => ?_, fun e => ?_⟩
  · rintro ⟨files, hfiles⟩
    obtain ⟨ts, ⟨hgenerable, -⟩, -⟩ := (hok files).mp hfiles
    exact hgenerable
  · obtain ⟨ts, hts⟩ := exists_mapM_eq_ok_iff.mpr hgenerable.compiled
    exact ⟨_, (hok _).mpr ⟨ts, ⟨hgenerable, hts⟩, rfl⟩⟩
  · obtain ⟨ts, ⟨-, hts⟩, rfl⟩ := (hok files).mp hfiles
    have hall := mapM_eq_ok_iff.mp hts
    have hempty : ts = [] ↔ chosen set listed = [] := by
      rw [← List.length_eq_zero_iff, ← hall.length_eq, List.length_eq_zero_iff]
    refine ⟨ts, hall, ?_⟩
    simp [filesFor, ← hempty]
  · rw [generate_eq_error_iff, ← tables_eq_error_iff, tables_eq_error_iff_refuses hset]

/-- A source tree with two structs of one name, of which one is marked. -/
def ledger : Disk :=
  ⟨[(["src"], .directory),
    (["src", "lib.rs"], .file (.text ("#[derive(Entity)] struct Invoice \x7b id: i64 \x7d " ++
      "struct Line \x7b id: i64 \x7d"))),
    (["src", "old.rs"], .file (.text "struct Invoice \x7b id: i64 \x7d"))]⟩

/-- A declaration of a struct in `ledger`. -/
def ledgerDecl (module name : String) (marked : Bool) : Decl :=
  ⟨⟨module, name⟩, .struct [⟨"id", .primitive .int64, "i64", none, false⟩] marked⟩

/-- The declarations of `ledger`. -/
def ledgerDecls : DeclSet :=
  .insertAll {} [ledgerDecl "crate" "Invoice" true, ledgerDecl "crate" "Line" false,
    ledgerDecl "crate::old" "Invoice" false]

theorem collectTree_ledger : collectTree ledger "src" "out" = .ok ledgerDecls :=
  eq_ok_of_toOption (by decide +kernel)

theorem hasResult_ledger : ∀ d ∈ ledgerDecls.decls, HasResult (compileIn ledgerDecls) d := by
  have hall : ∀ d ∈ ledgerDecls.decls, (compileIn ledgerDecls d).toOption.isSome = true := by
    decide +kernel
  intro d hd
  obtain ⟨t, ht⟩ := Option.isSome_iff_exists.mp (hall d hd)
  exact ⟨t, eq_ok_of_toOption ht⟩

theorem isStruct_ledger : ∀ d ∈ ledgerDecls.decls, d.IsStruct := by
  have hdecls : ledgerDecls.decls = [ledgerDecl "crate" "Invoice" true,
      ledgerDecl "crate" "Line" false, ledgerDecl "crate::old" "Invoice" false] := by
    decide
  simp [hdecls, ledgerDecl, Decl.IsStruct]

/-- Files are emitted for the marked entity with another one that is listed. If the name
of both invoices is listed then there are two entities with one table. -/
theorem generates_ledger :
    (∃ files, generate ledger "src" "out" ["Line"] {} = .ok files) ∧
      generate ledger "src" "out" ["Invoice"] {} =
        .error (.sameTable ⟨"crate", "Invoice"⟩ ⟨"crate::old", "Invoice"⟩ "invoice") := by
  have hstructs : ∀ listed, ∀ d ∈ ledgerDecls.toList, IsListable listed d :=
    fun _ d hd _ => isStruct_ledger d hd
  have hcompiled : ∀ listed, ∀ d ∈ chosen ledgerDecls listed,
      HasResult (compileIn ledgerDecls) d :=
    fun _ d hd => hasResult_ledger d (List.mem_of_mem_filter hd)
  constructor
  · refine (generates_iff collectTree_ledger ["Line"] {}).1.mpr
      ⟨⟨?_, hstructs _⟩, hcompiled _, by decide +kernel⟩
    exact List.forall_mem_singleton.mpr ⟨ledgerDecl "crate" "Line" false, by decide, rfl⟩
  · have hdeclared : ∀ name ∈ ["Invoice"], IsDeclared ledgerDecls name :=
      List.forall_mem_singleton.mpr ⟨ledgerDecl "crate" "Invoice" true, by decide, rfl⟩
    have hchosen : chosen ledgerDecls ["Invoice"] =
        [ledgerDecl "crate" "Invoice" true] ++ [ledgerDecl "crate::old" "Invoice" false] := by
      decide
    have hrefused := Refuses.sameTable ⟨hdeclared, hstructs _⟩ (hcompiled _) hchosen
      (List.nodup_singleton _) List.mem_cons_self rfl
    have hname : (ledgerDecl "crate::old" "Invoice" false).tableName = "invoice" := by
      decide +kernel
    rw [hname] at hrefused
    exact ((generates_iff collectTree_ledger ["Invoice"] {}).2.2.2 _).mpr hrefused

end Command

end Rowsmith
