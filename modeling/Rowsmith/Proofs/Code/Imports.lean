/-
# Names bound in emitted files

An emitted file imports types of the library that it runs on and the types of the
model, and the tests declare a type of their own. All of these share one scope.
The names are read from the imported paths and from the lines that set fields.
`bindsOnce_iff` says for which models no name of an emitted file is bound twice:
imports of a model are told apart by their whole paths, and nothing keeps the name
of a type in the model from being one that the file uses for something else.
-/

import Mathlib.Data.List.Nodup
import Rowsmith.Proofs.Code.Identifiers

namespace Rowsmith.Code

open Text

/-! ## Names that a file binds -/

/-- The last name in a text whose last character comes first. -/
def lastName (cs : List Char) : String :=
  String.ofList (cs.takeWhile isNameContinue).reverse

/-- The names that the import of a path binds: the last one, which may be another name
for what is imported, or those in the braces at the end, where `self` stands for the
module before the braces. -/
def importedNames (path : String) : List String :=
  match path.toList.reverse with
  | '}' :: cs =>
    let module := lastName ((cs.dropWhile (· != '{')).drop 3)
    ((cs.takeWhile (· != '{')).splitOn ',').map fun listed =>
      if lastName listed = "self" then module else lastName listed
  | cs => [lastName cs]

/-- The paths that a file imports. -/
def File.imports (f : File) : List String :=
  f.items.flatMap fun
    | .uses paths => paths
    | _ => []

/-- The names of the types that a file declares. -/
def File.recordNames (f : File) : List String :=
  f.items.filterMap fun
    | .record r => some r.name
    | _ => none

/-- The names of types, and of modules, which share their scope, that a file binds: it
imports or declares them. -/
def File.boundNames (f : File) : List String :=
  f.imports.flatMap importedNames ++ f.recordNames

/-- The imports that bind a name. -/
def File.importsOf (f : File) (name : String) : List String :=
  f.imports.filter fun path => (importedNames path).contains name

/-! ## Wrappers that a file mentions -/

/-- What follows the first sign after which a value comes: a colon or an equals sign
with a blank behind it. -/
def afterSign? : List Char → Option (List Char)
  | ':' :: ' ' :: cs => some cs
  | '=' :: ' ' :: cs => some cs
  | _ :: cs => afterSign? cs
  | [] => none

/-- The name that is applied at the start of `cs`. -/
def appliedName? (cs : List Char) : Option String :=
  match cs.dropWhile isNameContinue with
  | '(' :: _ => some (String.ofList (cs.takeWhile isNameContinue))
  | _ => none

/-- The name that is applied to get the value that a line sets. -/
def makerName? (line : String) : Option String :=
  (afterSign? line.toList).bind appliedName?

/-- The lines of a file that set fields of rows. -/
def File.settingLines (f : File) (t : Table) : List String :=
  f.linesOf "from_row" s!"Ok({t.entity.name} \x7b" ++
    (f.linesOf "populate_from_nonce" (t.entity.name ++ " \x7b") ++
      f.outerLinesOf "populate_with_id_and_timestamp")

/-- The wrappers that a file mentions: what is applied to set the fields of rows and is
no function of the file. -/
def File.wrapperNames (f : File) (t : Table) : List String :=
  ((f.settingLines t).filterMap makerName?).filter fun name => (f.function? name).isNone

/-! ## Imports of a model -/

/-- The name of a type is the last one of its path. -/
theorem lastName_display {p : TypePath} (h : IsWord p.name) :
    lastName p.display.toList.reverse = p.name := by
  have hreverse : p.display.toList.reverse =
      p.name.toList.reverse ++ ':' :: ':' :: p.module.toList.reverse := by
    simp [TypePath.display]
  have hword : ∀ c ∈ p.name.toList.reverse, isNameContinue c = true := by
    intro c hc
    exact h.isNameContinue c (List.mem_reverse.mp hc)
  rw [lastName, hreverse, List.takeWhile_append_of_pos hword,
    List.takeWhile_cons_of_neg (by decide), List.append_nil, List.reverse_reverse,
    String.ofList_toList]

theorem importedNames_display {p : TypePath} (h : IsWord p.name) :
    importedNames p.display = [p.name] := by
  unfold importedNames
  split
  next cs heq =>
    -- a name in front of the brace would be empty
    have hempty := lastName_display h
    rw [heq] at hempty
    obtain ⟨c, cs', hname, -⟩ := isWord_toList h
    rw [← hempty] at hname
    cases hname
  next => rw [lastName_display h]

/-- A path with the name of a type is known by its text. -/
theorem display_inj {p q : TypePath} (hp : IsWord p.name) (hq : IsWord q.name)
    (h : p.display = q.display) : p = q := by
  have hchars : p.module.toList ++ ':' :: ':' :: p.name.toList =
      q.module.toList ++ ':' :: ':' :: q.name.toList := by
    simpa [TypePath.display] using congrArg String.toList h
  obtain ⟨hmodule, hname⟩ := append_colons_inj (not_mem_of_isWord hp (by decide))
    (not_mem_of_isWord hq (by decide)) hchars
  cases p
  cases q
  exact congrArg₂ TypePath.mk (String.toList_inj.mp hmodule) (String.toList_inj.mp hname)

theorem display_mem_modelUses {t : Table} {p : TypePath} (hp : p ∈ modelPaths t) :
    p.display ∈ modelUses t :=
  mem_ordered.mpr (List.mem_map_of_mem hp)

theorem nodup_modelUses (t : Table) : (modelUses t).Nodup :=
  nodup_ordered _

/-- The types of the model have names of their own: no two of those that are mentioned
have one name, and none has a name from `taken`. -/
structure HasOwnNames (taken : List String) (t : Table) : Prop where
  distinct : ∀ p ∈ modelPaths t, ∀ q ∈ modelPaths t, p.name = q.name → p = q
  free : ∀ p ∈ modelPaths t, p.name ∉ taken

namespace HasWords

variable {t : Table} (h : HasWords t)

include h

theorem exists_of_mem_modelUses {path : String} (hpath : path ∈ modelUses t) :
    ∃ p ∈ modelPaths t, p.display = path ∧ importedNames path = [p.name] := by
  rw [modelUses, mem_ordered] at hpath
  obtain ⟨p, hp, rfl⟩ := List.mem_map.mp hpath
  exact ⟨p, hp, rfl, importedNames_display (h.types p hp)⟩

theorem modelNames_eq : (modelUses t).flatMap importedNames =
    (modelUses t).map fun path => lastName path.toList.reverse := by
  rw [← List.flatMap_pure_eq_map]
  refine List.flatMap_congr fun path hpath => ?_
  obtain ⟨p, hp, rfl, hnames⟩ := h.exists_of_mem_modelUses hpath
  rw [hnames, Function.comp_apply, lastName_display (h.types p hp)]
  rfl

/-- The imports of a model are told apart by their paths, so that no name is bound
twice exactly when no two types have one name. -/
theorem nodup_modelNames_iff :
    ((modelUses t).flatMap importedNames).Nodup ↔
      ∀ p ∈ modelPaths t, ∀ q ∈ modelPaths t, p.name = q.name → p = q := by
  rw [h.modelNames_eq, List.nodup_map_iff_inj_on (nodup_modelUses t)]
  constructor
  · intro hinj p hp q hq hname
    apply display_inj (h.types p hp) (h.types q hq)
    apply hinj _ (display_mem_modelUses hp) _ (display_mem_modelUses hq)
    rw [lastName_display (h.types p hp), lastName_display (h.types q hq), hname]
  · intro hdistinct path hpath path' hpath' hlast
    obtain ⟨p, hp, rfl, -⟩ := h.exists_of_mem_modelUses hpath
    obtain ⟨q, hq, rfl, -⟩ := h.exists_of_mem_modelUses hpath'
    rw [lastName_display (h.types p hp), lastName_display (h.types q hq)] at hlast
    rw [hdistinct p hp q hq hlast]

theorem mem_modelNames_iff {name : String} :
    name ∈ (modelUses t).flatMap importedNames ↔ ∃ p ∈ modelPaths t, p.name = name := by
  rw [List.mem_flatMap]
  constructor
  · rintro ⟨path, hpath, hname⟩
    obtain ⟨p, hp, rfl, hnames⟩ := h.exists_of_mem_modelUses hpath
    rw [hnames, List.mem_singleton] at hname
    exact ⟨p, hp, hname.symm⟩
  · rintro ⟨p, hp, rfl⟩
    refine ⟨p.display, display_mem_modelUses hp, ?_⟩
    rw [importedNames_display (h.types p hp)]
    exact List.mem_singleton_self _

/-- Names that are bound apart from the model, and those of the model. -/
theorem nodup_append_modelNames_iff {taken : List String} (htaken : taken.Nodup) :
    (taken ++ (modelUses t).flatMap importedNames).Nodup ↔ HasOwnNames taken t := by
  rw [List.nodup_append', h.nodup_modelNames_iff]
  constructor
  · rintro ⟨-, hdistinct, hdisjoint⟩
    refine ⟨hdistinct, fun p hp hmem => ?_⟩
    exact hdisjoint hmem (h.mem_modelNames_iff.mpr ⟨p, hp, rfl⟩)
  · rintro ⟨hdistinct, hfree⟩
    refine ⟨htaken, hdistinct, fun name hmem hname => ?_⟩
    obtain ⟨p, hp, rfl⟩ := h.mem_modelNames_iff.mp hname
    exact hfree p hp hmem

/-- A type with a name of its own is imported once. -/
theorem filter_modelUses {taken : List String} (hown : HasOwnNames taken t) {p : TypePath}
    (hp : p ∈ modelPaths t) :
    (modelUses t).filter (fun path => (importedNames path).contains p.name) = [p.display] := by
  have hfilter : (modelUses t).filter (fun path => (importedNames path).contains p.name) =
      (modelUses t).filter (· == p.display) := by
    refine List.filter_congr fun path hpath => ?_
    obtain ⟨q, hq, rfl, hnames⟩ := h.exists_of_mem_modelUses hpath
    rw [hnames, Bool.eq_iff_iff, beq_iff_eq, List.contains_iff_mem, List.mem_singleton]
    constructor
    · intro hname
      rw [hown.distinct p hp q hq hname]
    · intro hdisplay
      rw [display_inj (h.types q hq) (h.types p hp) hdisplay]
  rw [hfilter, List.filter_beq,
    List.count_eq_one_of_mem (nodup_modelUses t) (display_mem_modelUses hp)]
  rfl

end HasWords

/-! ## Names of the emitted files -/

/-- The names that the accessors take for themselves. -/
def accessorNames (o : Options) : List String :=
  ["qb", "Dialect", "Row", "CrudError", "CrudResult", "Fields", "GenericClient", "Operation"] ++
    match o.connection with
    | .explicit => []
    | .context => ["DbContext"]

/-- The names that the tests take for themselves. -/
def testNames (t : Table) (o : Options) : List String :=
  ["NaiveDateTime", "TestDatabase", "Fields", "clock", "crud", "Case"] ++
    (if makesTimestamps t o then ["DateTime"] else []) ++
    match o.connection with
    | .explicit => ["GenericClient"]
    | .context => ["DbContext"]

theorem nodup_accessorNames (o : Options) : (accessorNames o).Nodup := by
  unfold accessorNames
  cases o.connection <;> decide

theorem nodup_testNames (t : Table) (o : Options) : (testNames t o).Nodup := by
  unfold testNames
  cases makesTimestamps t o <;> cases o.connection <;> decide

theorem imports_accessorFile (t : Table) (o : Options) :
    (accessorFile t o).imports = runtimeUses o ++ modelUses t := by
  unfold accessorFile File.imports
  rw [List.flatMap_append, List.flatMap_append, List.flatMap_map, List.flatMap_map]
  simp

theorem imports_testFile (t : Table) (o : Options) :
    (testFile t o).imports = testUses t o ++ "super::db_crud as crud" :: modelUses t := by
  unfold testFile File.imports
  rw [List.flatMap_append, List.flatMap_map]
  simp

theorem recordNames_accessorFile (t : Table) (o : Options) :
    (accessorFile t o).recordNames = [] := by
  unfold accessorFile File.recordNames
  rw [List.filterMap_append, List.filterMap_append, List.filterMap_map, List.filterMap_map]
  simp

theorem recordNames_testFile (t : Table) (o : Options) :
    (testFile t o).recordNames = ["Case"] := by
  unfold testFile File.recordNames
  rw [List.filterMap_append, List.filterMap_map]
  simp [caseRecord]

/-- What the accessors import apart from the model. -/
theorem perm_runtimeUses (o : Options) :
    ((runtimeUses o).flatMap importedNames).Perm (accessorNames o) := by
  unfold runtimeUses accessorNames
  cases o.connection <;> decide +kernel

/-- What the tests import apart from the model, and the type that they declare. -/
theorem perm_testUses (t : Table) (o : Options) :
    ((testUses t o ++ ["super::db_crud as crud"]).flatMap importedNames ++ ["Case"]).Perm
      (testNames t o) := by
  unfold testUses testNames
  cases makesTimestamps t o <;> cases o.connection <;> decide +kernel

/-! ## Wrappers in the emitted files -/

/-- The name is that of a wrapper that the table uses. -/
def IsWrapper (t : Table) (name : String) : Prop :=
  ∃ c ∈ t.columns, ∃ path, c.via = .newtype path ∧ path.name = name

theorem mem_modelPaths_of_via {t : Table} {c : Column} {path : TypePath} (hc : c ∈ t.columns)
    (hvia : c.via = .newtype path) : path ∈ modelPaths t := by
  refine List.mem_cons_of_mem _ (List.mem_filterMap.mpr ⟨c, hc, ?_⟩)
  rw [hvia]

theorem afterSign?_append {pre : List Char} {sign : Char} (hsign : sign = ':' ∨ sign = '=')
    (hcolon : ':' ∉ pre) (hequals : '=' ∉ pre) (cs : List Char) :
    afterSign? (pre ++ sign :: ' ' :: cs) = some cs := by
  induction pre with
  | nil => rcases hsign with rfl | rfl <;> rfl
  | cons c pre ih =>
      rw [List.mem_cons, not_or] at hcolon hequals
      rw [List.cons_append, afterSign?, ih hcolon.2 hequals.2]
      · rintro cs' rfl
        exact absurd rfl hcolon.1
      · rintro cs' rfl
        exact absurd rfl hequals.1

/-- The name that is applied in a value is that of the wrapper, or it is applied inside
of a value that has none. -/
theorem appliedName?_wrapped {c : Column} {e ending name : String}
    (hwords : ∀ path, c.via = .newtype path → IsWord path.name)
    (h : appliedName? (wrapped c e ++ ending).toList = some name) :
    (∃ path, c.via = .newtype path ∧ path.name = name) ∨
      appliedName? (e ++ ending).toList = some name := by
  unfold wrapped at h
  split at h
  next path hvia =>
    have hword := (hwords path hvia).isNameContinue
    have hvalue : (s!"{path.name}({e})" ++ ending).toList =
        path.name.toList ++ '(' :: (e.toList ++ ')' :: ending.toList) := by
      simp
    rw [hvalue, appliedName?, List.dropWhile_append_of_pos hword,
      List.dropWhile_cons_of_neg (by decide), List.takeWhile_append_of_pos hword,
      List.takeWhile_cons_of_neg (by decide), List.append_nil, String.ofList_toList] at h
    exact .inl ⟨path, hvia, Option.some.inj h⟩
  next => exact .inr h

theorem render_of_mem_initialisers {t : Table} {i : Initialiser} (hi : i ∈ initialisers t) :
    ∃ c ∈ t.columns, ∃ n : Nat,
      i.render = identifier c.field ++ ": " ++ (wrapped c s!"row.try_get({n})?" ++ ",") := by
  obtain ⟨⟨c, n⟩, hcolumn, rfl⟩ := List.mem_map.mp hi
  refine ⟨c, List.fst_mem_of_mem_zipIdx hcolumn, n, String.toList_inj.mp ?_⟩
  unfold wrapped
  cases hvia : c.via <;> simp [Initialiser.render, hvia]

theorem not_mem_identifier {name : String} (h : IsWord name) {c : Char}
    (hc : endsName c = true) : c ∉ (identifier name).toList := by
  rw [endsName, Bool.and_eq_true, Bool.not_eq_true', bne_iff_ne] at hc
  have hname : c ∉ name.toList := not_mem_of_isWord h hc.1
  have hletter : c ≠ 'r' := by
    rintro rfl
    exact absurd hc.1 (by decide)
  unfold identifier
  split
  next => simp [hname, hletter, hc.2]
  next => exact hname

theorem makerName?_initialised {field : String} (h : IsWord field) (value : String) :
    makerName? (identifier field ++ ": " ++ value) = appliedName? value.toList := by
  have hline : (identifier field ++ ": " ++ value).toList =
      (identifier field).toList ++ ':' :: ' ' :: value.toList := by
    simp
  rw [makerName?, hline, afterSign?_append (.inl rfl) (not_mem_identifier h (by decide))
    (not_mem_identifier h (by decide)), Option.bind_some]

theorem makerName?_assigned {field : String} (h : IsWord field) (value : String) :
    makerName? ("d." ++ identifier field ++ " = " ++ value) = appliedName? value.toList := by
  have hline : ("d." ++ identifier field ++ " = " ++ value).toList =
      ("d.".toList ++ (identifier field).toList ++ [' ']) ++ '=' :: ' ' :: value.toList := by
    simp
  have hcolon : ':' ∉ (identifier field).toList := not_mem_identifier h (by decide)
  have hequals : '=' ∉ (identifier field).toList := not_mem_identifier h (by decide)
  rw [makerName?, hline, afterSign?_append (.inr rfl) (by simp [hcolon]) (by simp [hequals]),
    Option.bind_some]

/-- The only function that is applied to make a value from a number makes times. -/
theorem appliedName?_nonceExpression (kind : Primitive) :
    appliedName? (nonceExpression kind ++ ",").toList =
      if kind = .timestamp then some "timestamp_from_nonce" else none := by
  cases kind <;> decide

theorem settingLines_accessorFile (t : Table) (o : Options) :
    (accessorFile t o).settingLines t = (initialisers t).map Initialiser.render := by
  have hpopulate : (accessorFile t o).function? "populate_from_nonce" = none := rfl
  have hstored : (accessorFile t o).function? "populate_with_id_and_timestamp" = none := rfl
  rw [File.settingLines, linesOf_fromRow, File.linesOf, File.outerLinesOf, hpopulate, hstored]
  exact List.append_nil _

theorem settingLines_testFile (t : Table) (o : Options) :
    (testFile t o).settingLines t =
      (t.columns.map fun c => s!"{identifier c.field}: {initialExpression o c},") ++
        ("let mut d = populate_from_nonce(nonce);" ::
          ((storedAssignments t o).map fun a => s!"d.{identifier a.1} = {a.2};") ++ ["d"]) := by
  have hrow : (testFile t o).function? "from_row" = none := by
    unfold testFile testFunctions
    cases makesTimestamps t o <;> rfl
  rw [File.settingLines, linesOf_populate, outerLinesOf_stored, File.linesOf, hrow]
  rfl

namespace HasWords

variable {t : Table} (h : HasWords t)

include h

/-- What is applied in a value that a column gets is its wrapper, if nothing is applied
inside. -/
theorem isWrapper_of_value {c : Column} (hc : c ∈ t.columns) {e ending name : String}
    (hvalue : appliedName? (wrapped c e ++ ending).toList = some name) :
    IsWrapper t name ∨ appliedName? (e ++ ending).toList = some name := by
  have hwords : ∀ path, c.via = .newtype path → IsWord path.name := by
    intro path hvia
    exact h.types path (mem_modelPaths_of_via hc hvia)
  apply (appliedName?_wrapped hwords hvalue).imp_left
  rintro ⟨path, hvia, rfl⟩
  exact ⟨c, hc, path, hvia, rfl⟩

/-- A field that is read from a row gets what is read, in the wrapper of its column. -/
theorem isWrapper_of_initialiser {i : Initialiser} (hi : i ∈ initialisers t) {name : String}
    (hname : makerName? i.render = some name) : IsWrapper t name := by
  obtain ⟨c, hc, n, hrender⟩ := render_of_mem_initialisers hi
  rw [hrender, makerName?_initialised (h.fields c hc)] at hname
  apply (h.isWrapper_of_value hc hname).resolve_right
  intro hplain
  have hrow : (s!"row.try_get({n})?" ++ ",").toList =
      'r' :: 'o' :: 'w' :: '.' :: (s!"try_get({n})?" ++ ",").toList := by
    simp
  rw [hrow] at hplain
  cases hplain

/-- A field of a row made from a number gets a value in the wrapper of its column, and
only the function that makes times is applied inside. -/
theorem isWrapper_of_initialExpression {o : Options} {c : Column} (hc : c ∈ t.columns)
    {name : String}
    (hname : makerName? s!"{identifier c.field}: {initialExpression o c}," = some name) :
    IsWrapper t name ∨ name = "timestamp_from_nonce" ∧ makesTimestamps t o = true := by
  have hline : s!"{identifier c.field}: {initialExpression o c}," =
      identifier c.field ++ ": " ++ (initialExpression o c ++ ",") :=
    String.toList_inj.mp (by simp)
  rw [hline, makerName?_initialised (h.fields c hc)] at hname
  refine (h.isWrapper_of_value hc hname).imp_right fun hplain => ?_
  split at hplain
  next => cases hplain
  next hkey =>
    split at hplain
    next => cases hplain
    next hauto =>
      rw [appliedName?_nonceExpression] at hplain
      split at hplain
      next hkind =>
        refine ⟨(Option.some.inj hplain).symm, List.any_eq_true.mpr ⟨c, ?_, ?_⟩⟩
        · exact List.mem_filter.mpr ⟨hc, by simp [hkey, hauto]⟩
        · exact beq_iff_eq.mpr hkind
      next => cases hplain

/-- The identity of a stored row is set in its wrapper. -/
theorem isWrapper_of_storedAssignment {o : Options} {a : String × String}
    (ha : a ∈ storedAssignments t o) {name : String}
    (hname : makerName? s!"d.{identifier a.1} = {a.2};" = some name) : IsWrapper t name := by
  have hline : s!"d.{identifier a.1} = {a.2};" =
      "d." ++ identifier a.1 ++ " = " ++ (a.2 ++ ";") :=
    String.toList_inj.mp (by simp)
  rw [hline] at hname
  rcases List.mem_append.mp ha with hidentity | hauto
  · obtain ⟨c, hc, rfl⟩ := List.mem_map.mp hidentity
    have hc : c ∈ t.columns := mem_columns_of_identity? (Option.mem_toList.mp hc)
    rw [makerName?_assigned (h.fields c hc)] at hname
    apply (h.isWrapper_of_value hc hname).resolve_right
    exact nofun
  · obtain ⟨c, hc, rfl⟩ := List.mem_map.mp hauto
    have htime : appliedName? ("t" ++ ";").toList = none := by decide
    rw [makerName?_assigned (h.fields c (List.mem_of_mem_filter hc)), htime] at hname
    cases hname

theorem isWrapper_of_accessors {o : Options} {name : String}
    (hname : name ∈ (accessorFile t o).wrapperNames t) : IsWrapper t name := by
  obtain ⟨line, hline, hmaker⟩ := List.mem_filterMap.mp (List.mem_of_mem_filter hname)
  rw [settingLines_accessorFile] at hline
  obtain ⟨i, hi, rfl⟩ := List.mem_map.mp hline
  exact h.isWrapper_of_initialiser hi hmaker

theorem isWrapper_of_tests {o : Options} {name : String}
    (hname : name ∈ (testFile t o).wrapperNames t) : IsWrapper t name := by
  obtain ⟨hmade, hfunction⟩ := List.mem_filter.mp hname
  obtain ⟨line, hline, hmaker⟩ := List.mem_filterMap.mp hmade
  rw [settingLines_testFile, List.mem_append, List.mem_append, List.mem_cons] at hline
  rcases hline with hline | (rfl | hline) | hline
  · obtain ⟨c, hc, rfl⟩ := List.mem_map.mp hline
    apply (h.isWrapper_of_initialExpression hc hmaker).resolve_right
    rintro ⟨rfl, hmakes⟩
    unfold testFile testFunctions at hfunction
    rw [hmakes] at hfunction
    cases hfunction
  · have hcopy : makerName? "let mut d = populate_from_nonce(nonce);" =
        some "populate_from_nonce" := by
      decide
    rw [hcopy] at hmaker
    obtain rfl := Option.some.inj hmaker
    unfold testFile testFunctions at hfunction
    cases hmakes : makesTimestamps t o <;> rw [hmakes] at hfunction <;> cases hfunction
  · obtain ⟨a, ha, rfl⟩ := List.mem_map.mp hline
    exact h.isWrapper_of_storedAssignment ha hmaker
  · obtain rfl := List.mem_singleton.mp hline
    cases hmaker

end HasWords

/-! ## All names of a file -/

/-- A file for a table binds each name once: no name is bound twice, each type of the
model that code for the table needs is bound by one import, which is of that type, and
the wrappers that the file mentions are of this kind. -/
structure BindsOnce (t : Table) (f : File) : Prop where
  names : f.boundNames.Nodup
  imports : ∀ path ∈ modelPaths t, f.importsOf path.name = [path.display]
  wrappers : ∀ name ∈ f.wrapperNames t, IsWrapper t name

/-- A file that binds the names `taken` and those of the model. -/
theorem bindsOnce_iff_of_perm {t : Table} (h : HasWords t) {f : File} {taken : List String}
    (htaken : taken.Nodup)
    (hperm : f.boundNames.Perm (taken ++ (modelUses t).flatMap importedNames))
    (himports : ∃ own, f.imports = own ++ modelUses t ∧ own.flatMap importedNames ⊆ taken)
    (hwrappers : ∀ name ∈ f.wrapperNames t, IsWrapper t name) :
    BindsOnce t f ↔ HasOwnNames taken t := by
  have hnames : f.boundNames.Nodup ↔ HasOwnNames taken t := by
    rw [hperm.nodup_iff, h.nodup_append_modelNames_iff htaken]
  constructor
  · intro hbinds
    exact hnames.mp hbinds.names
  · intro hown
    refine ⟨hnames.mpr hown, fun path hpath => ?_, hwrappers⟩
    obtain ⟨own, himports, hsub⟩ := himports
    rw [File.importsOf, himports, List.filter_append, h.filter_modelUses hown hpath]
    have hnone : own.filter (fun p => (importedNames p).contains path.name) = [] := by
      rw [List.filter_eq_nil_iff]
      intro p hp hmem
      apply hown.free path hpath
      exact hsub (List.mem_flatMap.mpr ⟨p, hp, List.contains_iff_mem.mp hmem⟩)
    rw [hnone, List.nil_append]

/-- No name is bound twice in the files that are emitted for a compiled table exactly
when the types of the model have names of their own, apart from each other and from the
names that the file takes for itself. -/
theorem bindsOnce_iff {decls : DeclSet} {textBound : Nat} {entity : Decl} {t : Table}
    (o : Options) (hdecls : decls.IsNamed) (hentity : entity.IsNamed)
    (h : Table.compile decls textBound entity = .ok t) :
    (BindsOnce t (accessorFile t o) ↔ HasOwnNames (accessorNames o) t) ∧
      (BindsOnce t (testFile t o) ↔ HasOwnNames (testNames t o) t) := by
  have hwords := hasWords_of_compile hdecls hentity h
  constructor
  · apply bindsOnce_iff_of_perm hwords (nodup_accessorNames o)
    · rw [File.boundNames, imports_accessorFile, recordNames_accessorFile, List.append_nil,
        List.flatMap_append]
      exact (perm_runtimeUses o).append_right _
    · exact ⟨runtimeUses o, imports_accessorFile t o, (perm_runtimeUses o).subset⟩
    · intro name hname
      exact hwords.isWrapper_of_accessors hname
  · have hperm := perm_testUses t o
    have hpaths : (testFile t o).imports =
        (testUses t o ++ ["super::db_crud as crud"]) ++ modelUses t := by
      rw [imports_testFile, List.append_assoc, List.singleton_append]
    apply bindsOnce_iff_of_perm hwords (nodup_testNames t o)
    · rw [File.boundNames, hpaths, recordNames_testFile, List.flatMap_append, List.append_assoc]
      exact ((List.perm_append_comm.append_left _).trans
        (List.append_assoc _ _ _ ▸ List.Perm.refl _)).trans (hperm.append_right _)
    · refine ⟨_, hpaths, fun name hname => hperm.subset ?_⟩
      exact List.mem_append_left _ hname
    · intro name hname
      exact hwords.isWrapper_of_tests hname

theorem bindsOnce_iff_courier :
    Collect.source "crate::mail" courierSource .empty = .ok courierDecls ∧
      (∃ entity ∈ courierDecls.decls,
        Table.compile courierDecls 255 entity = .ok courierTable) ∧
      HasOwnNames (accessorNames {}) courierTable ∧
      HasOwnNames (testNames courierTable {}) courierTable ∧
      BindsOnce courierTable (accessorFile courierTable {}) ∧
      BindsOnce courierTable (testFile courierTable {}) := by
  have hdecls := (Collected.empty.source source_courier).isNamed
  have hdistinct : ∀ p ∈ modelPaths courierTable, ∀ q ∈ modelPaths courierTable,
      p.name = q.name → p = q := by
    decide
  have haccessors : HasOwnNames (accessorNames {}) courierTable := ⟨hdistinct, by decide⟩
  have htests : HasOwnNames (testNames courierTable {}) courierTable := ⟨hdistinct, by decide⟩
  obtain ⟨entity, hentity, hcompile⟩ := compile_courier
  have hiff := bindsOnce_iff {} hdecls (hdecls entity hentity) hcompile
  exact ⟨source_courier, compile_courier, haccessors, htests, hiff.1.mpr haccessors,
    hiff.2.mpr htests⟩

/-- An entity with the name of a type of the library that accessors import. -/
def row : Decl where
  path := ⟨"crate::hall", "Row"⟩
  kind := .struct [⟨"id", .primitive .int64, "i64", none, false⟩] false

/-- Its table. -/
def rowTable : Table where
  entity := ⟨"crate::hall", "Row"⟩
  name := "row"
  columns := [⟨"id", "id", .bigInt, .int64, .direct, true, true⟩]

/-- Both types are imported. -/
theorem row_imported_twice :
    Collect.source "crate::hall" "struct Row \x7b id: i64 \x7d" .empty = .ok (.insert {} row) ∧
      Table.compile (.insert {} row) 255 row = .ok rowTable ∧
      (accessorFile rowTable {}).importsOf "Row" =
        ["dbcrud::tokio_postgres::Row", "crate::hall::Row"] ∧
      ¬(accessorFile rowTable {}).boundNames.Nodup ∧
      ¬BindsOnce rowTable (accessorFile rowTable {}) := by
  have hnames : ¬(accessorFile rowTable {}).boundNames.Nodup := by
    decide +kernel
  refine ⟨by decide +kernel, by decide +kernel, by decide +kernel, hnames, ?_⟩
  intro hbinds
  exact hnames hbinds.names

end Rowsmith.Code
