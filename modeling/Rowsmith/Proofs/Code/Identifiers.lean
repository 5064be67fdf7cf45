/-
# Names of a model as identifiers

Names of fields, of tables and of declarations are written where emitted code needs
identifiers. A field whose name is a keyword is marked as raw, but not all keywords
are on the list that this goes by, and the names of modules and of types are written
as they are. `identifiers_iff` says for which models all of them are identifiers
all the same.
-/

import Rowsmith.Code.Bundle
import Rowsmith.Proofs.Code.Positions
import Rowsmith.Proofs.Declaration.Names
import Rowsmith.Proofs.Table.Faults
import Rowsmith.Proofs.Text.Ordered
import Rowsmith.Proofs.Text.Segments

namespace Rowsmith.Code

open Source Text

/-! ## Identifiers -/

/-- The words that name nothing in emitted code without a mark. A source text may still use
`gen`, which the edition of the code keeps for itself. -/
def reservedWords : List String :=
  "gen" :: Token.keywords

/-- The text is an identifier: a word that is not reserved, or a word behind the mark of
raw names. -/
def IsIdentifier (s : String) : Prop :=
  IsWord s ∧ s ∉ reservedWords ∨ ∃ word, IsWord word ∧ s = "r#" ++ word

/-- The name that a written name stands for, without the mark of raw names. -/
def unmarked (s : String) : String :=
  match s.toList with
  | 'r' :: '#' :: cs => String.ofList cs
  | _ => s

/-- Keywords that are not marked where they name a field. -/
def missedWords : List String :=
  reservedWords.filter fun word => !markedWords.contains word

/-- Most of them are words that have no use yet. -/
example : missedWords = ["_", "abstract", "become", "box", "crate", "do", "final", "macro",
    "override", "priv", "Self", "self", "super", "try", "typeof", "unsized", "virtual"] := by
  decide +kernel

theorem not_mem_of_isWord {s : String} (h : IsWord s) {c : Char}
    (hc : isNameContinue c = false) : c ∉ s.toList := by
  intro hmem
  rw [h.isNameContinue c hmem] at hc
  cases hc

theorem isWord_toList {s : String} (h : IsWord s) :
    ∃ c cs, s.toList = c :: cs ∧ isNameStart c = true := by
  obtain ⟨⟨c, hhead, hstart⟩, -⟩ := isWord_iff.mp h
  obtain ⟨cs, hcs⟩ := List.head?_eq_some_iff.mp hhead
  exact ⟨c, cs, hcs, hstart⟩

/-- A name without a mark is an identifier when it is a word and no keyword. -/
theorem isIdentifier_iff_of_not_mem {s : String} (h : '#' ∉ s.toList) :
    IsIdentifier s ↔ IsWord s ∧ s ∉ reservedWords := by
  refine ⟨fun hs => hs.resolve_right ?_, .inl⟩
  rintro ⟨word, -, rfl⟩
  simp at h

theorem colon_not_mem_of_isIdentifier {s : String} (h : IsIdentifier s) : ':' ∉ s.toList := by
  rcases h with ⟨hword, -⟩ | ⟨word, hword, rfl⟩
  · exact not_mem_of_isWord hword (by decide)
  · simp [not_mem_of_isWord hword (c := ':') (by decide)]

theorem unmarked_of_isWord {s : String} (h : IsWord s) : unmarked s = s := by
  unfold unmarked
  split
  next cs hs =>
    have hmark := not_mem_of_isWord h (c := '#') (by decide)
    simp [hs] at hmark
  next => rfl

theorem unmarked_marked (s : String) : unmarked ("r#" ++ s) = s := by
  simp [unmarked]

/-! ## Fields -/

/-- The name of a field, written in code, is an identifier and stands for the name
unless the name is one of the missed words. -/
theorem isIdentifier_identifier_iff {name : String} (h : IsWord name) :
    IsIdentifier (identifier name) ∧ unmarked (identifier name) = name ↔
      name ∉ missedWords := by
  unfold identifier
  split
  next hmarked =>
    have hmissed : name ∉ missedWords := by
      intro hmem
      have hout := (List.mem_filter.mp hmem).2
      rw [hmarked] at hout
      cases hout
    exact ⟨fun _ => hmissed, fun _ => ⟨.inr ⟨name, h, rfl⟩, unmarked_marked name⟩⟩
  next hplain =>
    have hmem : name ∈ missedWords ↔ name ∈ reservedWords := by
      rw [missedWords, List.mem_filter, Bool.not_eq_true', Bool.eq_false_iff]
      exact and_iff_left hplain
    rw [isIdentifier_iff_of_not_mem (not_mem_of_isWord h (by decide)), hmem]
    simp [h, unmarked_of_isWord h]

/-- The name at the start of `cs`, with its mark. -/
def leadingName : List Char → List Char
  | 'r' :: '#' :: cs => 'r' :: '#' :: cs.takeWhile isNameContinue
  | cs => cs.takeWhile isNameContinue

/-- The name at the start of a line. -/
def initialisedName (line : String) : String :=
  String.ofList (leadingName line.toList)

/-- What comes after the first `d.` in `cs`. -/
def afterAccess? : List Char → Option (List Char)
  | 'd' :: '.' :: cs => some cs
  | _ :: cs => afterAccess? cs
  | [] => none

/-- The field of `d` that a line mentions. -/
def accessedName? (line : String) : Option String :=
  (afterAccess? line.toList).map fun cs => String.ofList (leadingName cs)

/-- The lines of the function `name` outside of blocks. -/
def File.outerLinesOf (f : File) (name : String) : List String :=
  ((f.function? name).map fun g => g.body.filterMap Stmt.line?).getD []

/-- Where emitted code names fields: the names that stand there, and the columns whose
fields they name. An insertion binds fields, a row that is read and a row that is made
from a number set them, a stored row is made by setting some again, and rows are sorted
by the field of the identity. -/
def fieldPlaces (t : Table) (o : Options) : List (List String × List Column) :=
  [ (((accessorFile t o).linesOf "insert" bindOpening).filterMap accessedName?,
      t.insertColumns.filter fun c => !o.isAutoTimestamp c),
    (((accessorFile t o).linesOf "from_row" s!"Ok({t.entity.name} \x7b").map initialisedName,
      t.columns),
    (((testFile t o).linesOf "populate_from_nonce" (t.entity.name ++ " \x7b")).map
      initialisedName, t.columns),
    (((testFile t o).outerLinesOf "populate_with_id_and_timestamp").filterMap accessedName?,
      t.identity?.toList ++ autoColumns t o),
    (((testFile t o).outerLinesOf "assert_rows").filterMap accessedName?, t.identity?.toList),
    (((Suite.insertAndSelect.success (identityAccess t)).2.filterMap Stmt.line?).filterMap
      accessedName?, t.identity?.toList) ]

section Places

variable {t : Table} {o : Options} {name : String}

/-- Whether names end before `c`, and it does not make a mark of the name before it. -/
def endsName (c : Char) : Bool :=
  !isNameContinue c && c != '#'

/-- The name of a field is read up to the first character that is not part of it. -/
theorem leadingName_identifier (h : IsWord name) {c : Char} (hc : endsName c = true)
    (rest : List Char) :
    leadingName ((identifier name).toList ++ c :: rest) = (identifier name).toList := by
  rw [endsName, Bool.and_eq_true, Bool.not_eq_true', bne_iff_ne] at hc
  have hname : (name.toList ++ c :: rest).takeWhile isNameContinue = name.toList := by
    rw [List.takeWhile_append_of_pos h.isNameContinue,
      List.takeWhile_cons_of_neg (by simp [hc.1]), List.append_nil]
  unfold identifier
  split
  next => simp [leadingName, hname]
  next =>
    unfold leadingName
    split
    next cs heq =>
      -- only a mark could make a name start like this
      exfalso
      have hhash := not_mem_of_isWord h (c := '#') (by decide)
      have hne := hc.2
      obtain ⟨d, ds, hd, -⟩ := isWord_toList h
      rw [hd] at heq hhash
      cases ds with
      | nil => simp_all
      | cons e es => simp_all
    next => exact hname

theorem initialisedName_eq (h : IsWord name) (rest : String) :
    initialisedName (identifier name ++ ":" ++ rest) = identifier name := by
  have hline : (identifier name ++ ":" ++ rest).toList =
      (identifier name).toList ++ ':' :: rest.toList := by simp
  rw [initialisedName, hline, leadingName_identifier h (by decide), String.ofList_toList]

theorem accessedName?_eq (h : IsWord name) {line : String} (c : Char) (rest : List Char)
    (hc : endsName c = true)
    (hline : afterAccess? line.toList = some ((identifier name).toList ++ c :: rest)) :
    accessedName? line = some (identifier name) := by
  rw [accessedName?, hline, Option.map_some, leadingName_identifier h hc, String.ofList_toList]

theorem accessedName?_argument {c : Column} (h : IsWord c.field) :
    accessedName? ((argument o c).render ++ ",") =
      if !o.isAutoTimestamp c then some (identifier c.field) else none := by
  unfold argument
  cases o.isAutoTimestamp c with
  | true =>
      show accessedName? "&now," = none
      decide
  | false =>
      cases c.via with
      | newtype path =>
          apply accessedName?_eq h '.' ['0', ','] (by decide)
          simp [Argument.render, afterAccess?]
      | direct | synonym _ =>
          apply accessedName?_eq h ',' [] (by decide)
          simp [Argument.render, afterAccess?]

/-- A line after whose first `d.` the field comes. -/
theorem filterMap_accessedName? {α : Type} {xs : List α} {field line : α → String} {c : Char}
    (hc : endsName c = true) (hxs : ∀ x ∈ xs, IsWord (field x))
    (hline : ∀ x ∈ xs, ∃ rest,
      afterAccess? (line x).toList = some ((identifier (field x)).toList ++ c :: rest)) :
    (xs.map line).filterMap accessedName? = xs.map fun x => identifier (field x) := by
  rw [List.filterMap_map, ← List.filterMap_eq_map']
  refine List.filterMap_congr fun x hx => ?_
  obtain ⟨rest, hrest⟩ := hline x hx
  exact accessedName?_eq (hxs x hx) c rest hc hrest

/-- The names that stand at a place are those of the fields of its columns. -/
def NamesFields (t : Table) (place : List String × List Column) : Prop :=
  place.1 = place.2.map (fun c => identifier c.field) ∧ place.2 ⊆ t.columns

/-- An insertion binds the fields of the columns that are not set to the time. -/
theorem namesFields_insert (h : ∀ c ∈ t.columns, IsWord c.field) :
    NamesFields t (((accessorFile t o).linesOf "insert" bindOpening).filterMap accessedName?,
      t.insertColumns.filter fun c => !o.isAutoTimestamp c) := by
  constructor
  · dsimp only
    rw [linesOf_insert, insertArguments, List.map_map, List.filterMap_map, ← List.filterMap_eq_map,
      List.filterMap_filter]
    refine List.filterMap_congr fun c hc => ?_
    exact accessedName?_argument (h c (List.mem_of_mem_filter hc))
  · intro c hc
    exact List.mem_of_mem_filter (List.mem_of_mem_filter hc)

theorem render_initialiser (i : Initialiser) :
    ∃ rest, i.render = identifier i.field ++ ":" ++ rest := by
  unfold Initialiser.render
  exact ⟨" " ++ _ ++ ",", String.toList_inj.mp (by simp; rfl)⟩

theorem map_field_initialisers (t : Table) :
    (initialisers t).map Initialiser.field = t.columns.map Column.field := by
  calc (initialisers t).map Initialiser.field
      = (t.columns.zipIdx.map Prod.fst).map Column.field := by
        rw [initialisers, List.map_map, List.map_map]
        rfl
    _ = t.columns.map Column.field := by rw [List.zipIdx_map_fst]

theorem namesFields_fromRow (h : ∀ c ∈ t.columns, IsWord c.field) :
    NamesFields t (((accessorFile t o).linesOf "from_row" s!"Ok({t.entity.name} \x7b").map
      initialisedName, t.columns) := by
  have hcolumns : t.columns.map (fun c => identifier c.field) =
      (initialisers t).map (identifier ∘ Initialiser.field) := by
    rw [← List.map_map, map_field_initialisers, List.map_map]
    rfl
  refine ⟨?_, fun c hc => hc⟩
  dsimp only
  rw [linesOf_fromRow, List.map_map, hcolumns]
  refine List.map_congr_left fun i hi => ?_
  have hfield : i.field ∈ t.columns.map Column.field :=
    map_field_initialisers t ▸ List.mem_map_of_mem hi
  obtain ⟨c, hc, hfield⟩ := List.mem_map.mp hfield
  obtain ⟨rest, hrest⟩ := render_initialiser i
  rw [Function.comp_apply, hrest, initialisedName_eq (hfield ▸ h c hc), Function.comp_apply]

/-- The functions of the module of tests that make rows or compare them are found by their
names. -/
theorem function?_testFile {g : Function}
    (hg : g ∈ [populateFunction t o, populateStoredFunction t o, payloadFunction t o,
      assertRowsFunction t o]) :
    (testFile t o).function? g.name = some g := by
  unfold testFile testFunctions
  simp only [List.mem_cons, List.not_mem_nil, or_false] at hg
  rcases hg with rfl | rfl | rfl | rfl <;> cases makesTimestamps t o <;> rfl

theorem linesOf_populate (t : Table) (o : Options) :
    (testFile t o).linesOf "populate_from_nonce" (t.entity.name ++ " \x7b") =
      t.columns.map fun c => s!"{identifier c.field}: {initialExpression o c}," := by
  have hfunction : (testFile t o).function? "populate_from_nonce" =
      some (populateFunction t o) :=
    function?_testFile (g := populateFunction t o) (by simp)
  rw [File.linesOf, hfunction, Option.map_some, Option.getD_some, populateFunction, linesAfter,
    if_pos rfl, filterMap_line?_map]

/-- A row that is made from a number sets all fields. -/
theorem namesFields_populate (h : ∀ c ∈ t.columns, IsWord c.field) :
    NamesFields t (((testFile t o).linesOf "populate_from_nonce" (t.entity.name ++ " \x7b")).map
      initialisedName, t.columns) := by
  refine ⟨?_, fun c hc => hc⟩
  dsimp only
  rw [linesOf_populate, List.map_map]
  refine List.map_congr_left fun c hc => ?_
  have hline : s!"{identifier c.field}: {initialExpression o c}," =
      identifier c.field ++ ":" ++ s!" {initialExpression o c}," :=
    String.toList_inj.mp (by simp)
  rw [Function.comp_apply, hline, initialisedName_eq (h c hc)]

theorem mem_columns_of_identity? {c : Column} (h : t.identity? = some c) : c ∈ t.columns := by
  rcases Option.or_eq_some_iff.mp h with hfound | ⟨-, hhead⟩
  · exact List.mem_of_find?_eq_some hfound
  · exact List.mem_of_mem_head? hhead

theorem outerLinesOf_stored (t : Table) (o : Options) :
    (testFile t o).outerLinesOf "populate_with_id_and_timestamp" =
      "let mut d = populate_from_nonce(nonce);" ::
        ((storedAssignments t o).map fun a => s!"d.{identifier a.1} = {a.2};") ++ ["d"] := by
  have hfunction : (testFile t o).function? "populate_with_id_and_timestamp" =
      some (populateStoredFunction t o) :=
    function?_testFile (g := populateStoredFunction t o) (by simp)
  rw [File.outerLinesOf, hfunction, Option.map_some, Option.getD_some, populateStoredFunction,
    List.filterMap_append, List.filterMap_append, filterMap_line?_map]
  rfl

/-- A stored row is made by setting the identity and what is set to the time. -/
theorem namesFields_stored (h : ∀ c ∈ t.columns, IsWord c.field) :
    NamesFields t
      (((testFile t o).outerLinesOf "populate_with_id_and_timestamp").filterMap accessedName?,
        t.identity?.toList ++ autoColumns t o) := by
  have hfields : (storedAssignments t o).map Prod.fst =
      (t.identity?.toList ++ autoColumns t o).map Column.field := by
    simp [storedAssignments, Function.comp_def]
  have hcolumns : t.identity?.toList ++ autoColumns t o ⊆ t.columns := by
    intro c hc
    rcases List.mem_append.mp hc with hc | hc
    · exact mem_columns_of_identity? (Option.mem_toList.mp hc)
    · exact List.mem_of_mem_filter hc
  have hwords : ∀ a ∈ storedAssignments t o, IsWord a.1 := by
    intro a ha
    have hfield := List.mem_map_of_mem (f := Prod.fst) ha
    rw [hfields] at hfield
    obtain ⟨c, hc, hfield⟩ := List.mem_map.mp hfield
    exact hfield ▸ h c (hcolumns hc)
  refine ⟨?_, hcolumns⟩
  calc ((testFile t o).outerLinesOf "populate_with_id_and_timestamp").filterMap accessedName?
      = ((storedAssignments t o).map fun a => s!"d.{identifier a.1} = {a.2};").filterMap
          accessedName? := by
        rw [outerLinesOf_stored, List.cons_append, List.filterMap_cons_none (by decide),
          List.filterMap_append]
        simp [accessedName?, afterAccess?]
    _ = (storedAssignments t o).map fun a => identifier a.1 := by
        refine filterMap_accessedName? (c := ' ') (by decide) hwords fun a ha => ?_
        exact ⟨_, by simp [afterAccess?]; rfl⟩
    _ = ((storedAssignments t o).map Prod.fst).map identifier := by
        rw [List.map_map]
        rfl
    _ = (t.identity?.toList ++ autoColumns t o).map fun c => identifier c.field := by
        rw [hfields, List.map_map]
        rfl

/-- The line that sorts rows by the field of the identity. -/
theorem accessedName?_sort {c : Column} (h : IsWord c.field) (hidentity : t.identity? = some c) :
    accessedName? s!"actual.sort_by_key(|d| d.{identityAccess t});" =
      some (identifier c.field) := by
  cases hvia : c.via with
  | newtype path =>
      apply accessedName?_eq h '.' ['0', ')', ';'] (by decide)
      simp [identityAccess, hidentity, hvia, afterAccess?]
  | direct | synonym _ =>
      apply accessedName?_eq h ')' [';'] (by decide)
      simp [identityAccess, hidentity, hvia, afterAccess?]

/-- A place where only the field of the identity is named. -/
theorem namesFields_identity {names : List String} {c : Column} (hidentity : t.identity? = some c)
    (hnames : names = [identifier c.field]) : NamesFields t (names, t.identity?.toList) := by
  refine ⟨?_, fun d hd => mem_columns_of_identity? (Option.mem_toList.mp hd)⟩
  dsimp only
  rw [hnames, hidentity]
  rfl

theorem namesFields_rows {c : Column} (h : IsWord c.field) (hidentity : t.identity? = some c) :
    NamesFields t (((testFile t o).outerLinesOf "assert_rows").filterMap accessedName?,
      t.identity?.toList) := by
  have hfunction : (testFile t o).function? "assert_rows" = some (assertRowsFunction t o) :=
    function?_testFile (g := assertRowsFunction t o) (by simp)
  have hlines : (testFile t o).outerLinesOf "assert_rows" =
      [ "let mut actual = crud::select(conn, &Fields::new()).await.expect(case.name);",
        s!"actual.sort_by_key(|d| d.{identityAccess t});",
        "assert_eq!(case.expected, actual, \"\x7b\x7d\", case.name);" ] := by
    rw [File.outerLinesOf, hfunction]
    rfl
  apply namesFields_identity hidentity
  rw [hlines, List.filterMap_cons_none (by decide),
    List.filterMap_cons_some (accessedName?_sort h hidentity),
    List.filterMap_cons_none (by decide), List.filterMap_nil]

theorem namesFields_selected {c : Column} (h : IsWord c.field)
    (hidentity : t.identity? = some c) :
    NamesFields t
      (((Suite.insertAndSelect.success (identityAccess t)).2.filterMap Stmt.line?).filterMap
        accessedName?, t.identity?.toList) := by
  have hlines : (Suite.insertAndSelect.success (identityAccess t)).2.filterMap Stmt.line? =
      [ s!"actual.sort_by_key(|d| d.{identityAccess t});",
        "assert_eq!(case.expected, actual, \"\x7b\x7d\", case.name);" ] := by
    rfl
  apply namesFields_identity hidentity
  rw [hlines, List.filterMap_cons_some (accessedName?_sort h hidentity),
    List.filterMap_cons_none (by decide), List.filterMap_nil]

/-- At all places the names are those of fields. -/
theorem namesFields_of_mem_fieldPlaces (h : ∀ c ∈ t.columns, IsWord c.field)
    (hidentity : ∃ c, t.identity? = some c) {place : List String × List Column}
    (hplace : place ∈ fieldPlaces t o) : NamesFields t place := by
  obtain ⟨c, hc⟩ := hidentity
  have hword := h c (mem_columns_of_identity? hc)
  simp only [fieldPlaces, List.mem_cons, List.not_mem_nil, or_false] at hplace
  rcases hplace with rfl | rfl | rfl | rfl | rfl | rfl
  · exact namesFields_insert h
  · exact namesFields_fromRow h
  · exact namesFields_populate h
  · exact namesFields_stored h
  · exact namesFields_rows hword hc
  · exact namesFields_selected hword hc

end Places

/-- The names at a place are identifiers and stand for the fields of the columns. -/
def WritesFields (place : List String × List Column) : Prop :=
  List.Forall₂ (fun name c => IsIdentifier name ∧ unmarked name = c.field) place.1 place.2

theorem writesFields_iff {t : Table} (h : ∀ c ∈ t.columns, IsWord c.field)
    {place : List String × List Column} (hplace : NamesFields t place) :
    WritesFields place ↔ ∀ c ∈ place.2, c.field ∉ missedWords := by
  rw [WritesFields, hplace.1, List.forall₂_map_left_iff, List.forall₂_same]
  exact forall₂_congr fun c hc => isIdentifier_identifier_iff (h c (hplace.2 hc))

/-! ## Modules -/

/-- The modules that a file names. -/
def File.submodules (f : File) : List String :=
  f.items.filterMap fun
    | .submodule _ _ name => some name
    | _ => none

theorem submodules_rootModule (ts : List Table) :
    (rootModule ts).submodules = ordered (ts.map Table.name) := by
  rw [File.submodules, rootModule, List.filterMap_map]
  exact List.filterMap_some

/-- The snake-case form of a word is an identifier when its first letter or number is
one that names may start with and it is no keyword. -/
theorem isIdentifier_snakeCase_iff {name : String} (h : IsWord name) :
    IsIdentifier (snakeCase name) ↔
      (∃ c, name.toList.find? isAlphanumeric = some c ∧ isNameStart c = true) ∧
        snakeCase name ∉ reservedWords := by
  have hmark : '#' ∉ (snakeCase name).toList := (isName_snakeCase name).not_mem (by decide)
  rw [isIdentifier_iff_of_not_mem hmark, isWord_snakeCase_iff h.isNameContinue]

/-! ## Imports -/

/-- The names of a path apart from the word `crate` that it may start with. -/
def belowCrate : List String → List String
  | "crate" :: names => names
  | names => names

theorem belowCrate_append {names : List String} (h : names ≠ []) (name : String) :
    belowCrate (names ++ [name]) = belowCrate names ++ [name] := by
  obtain ⟨first, rest, rfl⟩ := List.exists_cons_of_ne_nil h
  by_cases hcrate : first = "crate"
  · rw [hcrate]
    rfl
  · rw [List.cons_append, belowCrate, belowCrate]
    · rfl
    · simp [hcrate]
    · simp [hcrate]

theorem colon_not_mem_of_belowCrate {names : List String}
    (h : ∀ n ∈ belowCrate names, IsIdentifier n) : ∀ n ∈ names, ':' ∉ n.toList := by
  intro n hn
  unfold belowCrate at h
  split at h
  next rest =>
    rcases List.mem_cons.mp hn with rfl | hn
    · decide
    · exact colon_not_mem_of_isIdentifier (h n hn)
  next => exact colon_not_mem_of_isIdentifier (h n hn)

/-- Only one text follows the last colons of a path. -/
theorem append_colons_inj {xs ys : List Char} {x y : List Char} (hx : ':' ∉ x) (hy : ':' ∉ y)
    (h : xs ++ ':' :: ':' :: x = ys ++ ':' :: ':' :: y) : xs = ys ∧ x = y := by
  have hreverse : x.reverse ++ ':' :: (':' :: xs.reverse) =
      y.reverse ++ ':' :: (':' :: ys.reverse) := by
    simpa using congrArg List.reverse h
  obtain ⟨hlast, -⟩ := append_stop_inj (by simpa using hx) (by simpa using hy) hreverse
  obtain rfl := List.reverse_injective hlast
  exact ⟨List.append_cancel_right h, rfl⟩

/-- If no segment of the module has a colon, the path of a type has one more segment. -/
theorem segments_display_of_module {p : TypePath} (hname : ':' ∉ p.name.toList)
    (hmodule : ∀ n ∈ segments p.module, ':' ∉ n.toList) :
    segments p.display = segments p.module ++ [p.name] := by
  have hdisplay : p.display = joinSegments (segments p.module ++ [p.name]) := by
    rw [joinSegments_concat (segments_ne_nil _), joinSegments_segments, TypePath.display]
  rw [hdisplay, segments_joinSegments (by simp)]
  exact List.forall_mem_append.mpr ⟨hmodule, List.forall_mem_singleton.mpr hname⟩

/-- The same if no segment of the path has a colon. -/
theorem segments_display_of_display {p : TypePath} (hname : ':' ∉ p.name.toList)
    (hcolons : ∀ n ∈ segments p.display, ':' ∉ n.toList) :
    segments p.display = segments p.module ++ [p.name] := by
  obtain ⟨names, last, hlast⟩ : ∃ names last, segments p.display = names ++ [last] :=
    ⟨_, _, (List.dropLast_append_getLast (segments_ne_nil p.display)).symm⟩
  rw [hlast] at hcolons
  have hlastColon := hcolons last (by simp)
  have hnames : names ≠ [] := by
    rintro rfl
    have hjoin := joinSegments_segments p.display
    rw [hlast, List.nil_append, joinSegments, String.intercalate_singleton] at hjoin
    rw [hjoin, TypePath.display] at hlastColon
    simp at hlastColon
  have hdisplay : p.module ++ "::" ++ p.name = joinSegments names ++ "::" ++ last := by
    rw [← joinSegments_concat hnames, ← hlast, joinSegments_segments, TypePath.display]
  have hchars : p.module.toList ++ ':' :: ':' :: p.name.toList =
      (joinSegments names).toList ++ ':' :: ':' :: last.toList := by
    simpa using congrArg String.toList hdisplay
  obtain ⟨hmodule, hlastName⟩ := append_colons_inj hname hlastColon hchars
  rw [hlast, String.toList_inj.mp hmodule, String.toList_inj.mp hlastName,
    segments_joinSegments hnames fun n hn => hcolons n (List.mem_append_left _ hn)]

/-- The names in an imported path are the names of its module and the name of the
type. -/
theorem forall_belowCrate_display_iff {p : TypePath} (h : IsWord p.name) :
    (∀ n ∈ belowCrate (segments p.display), IsIdentifier n) ↔
      (∀ n ∈ belowCrate (segments p.module), IsIdentifier n) ∧ p.name ∉ reservedWords := by
  have hcolon : ':' ∉ p.name.toList := not_mem_of_isWord h (by decide)
  have hname : IsIdentifier p.name ↔ p.name ∉ reservedWords := by
    rw [isIdentifier_iff_of_not_mem (not_mem_of_isWord h (by decide))]
    exact and_iff_right h
  have hsplit (hsegments : segments p.display = segments p.module ++ [p.name]) :
      (∀ n ∈ belowCrate (segments p.display), IsIdentifier n) ↔
        (∀ n ∈ belowCrate (segments p.module), IsIdentifier n) ∧ p.name ∉ reservedWords := by
    rw [hsegments, belowCrate_append (segments_ne_nil _), List.forall_mem_append,
      List.forall_mem_singleton, hname]
  constructor
  · intro hall
    exact (hsplit (segments_display_of_display hcolon (colon_not_mem_of_belowCrate hall))).mp hall
  · rintro ⟨hmodule, hkeyword⟩
    have hsegments := segments_display_of_module hcolon (colon_not_mem_of_belowCrate hmodule)
    exact (hsplit hsegments).mpr ⟨hmodule, hkeyword⟩

/-! ## All names -/

/-- The names of tables are written as identifiers where these are needed: the names of
fields at all places, which stand for the names in the model, the names of the modules
of tables, and the names in imported paths. -/
structure WritesIdentifiers (ts : List Table) (o : Options) : Prop where
  fields : ∀ t ∈ ts, ∀ place ∈ fieldPlaces t o, WritesFields place
  modules : ∀ name ∈ (rootModule ts).submodules, IsIdentifier name
  imports : ∀ t ∈ ts, ∀ path ∈ modelUses t, ∀ name ∈ belowCrate (segments path),
    IsIdentifier name

/-- No name of a table needs care: no field is called by one of the missed words, the
first letter or number of the name of the entity is one that names may start with and
its snake-case form is no keyword, and neither are the names of the types that are
imported or of their modules. -/
structure IsPlainlyNamed (t : Table) : Prop where
  fields : ∀ c ∈ t.columns, c.field ∉ missedWords
  start : ∃ c, t.entity.name.toList.find? isAlphanumeric = some c ∧ isNameStart c = true
  table : snakeCase t.entity.name ∉ reservedWords
  modules : ∀ p ∈ modelPaths t, ∀ name ∈ belowCrate (segments p.module), IsIdentifier name
  types : ∀ p ∈ modelPaths t, p.name ∉ reservedWords

end Rowsmith.Code

namespace Rowsmith.Table.IsTableOf

open Code Text

variable {decls : DeclSet} {textBound k : Nat} {entity : Decl} {fields : List FieldDecl}
  {marked : Bool} {t : Table}

/-- The fields of the columns have the names that are declared. -/
theorem isWord_field (h : IsTableOf decls textBound entity fields k t)
    (hentity : entity.IsNamed) (hkind : entity.kind = .struct fields marked) :
    ∀ c ∈ t.columns, IsWord c.field := by
  intro c hc
  obtain ⟨i, hi⟩ := List.mem_iff_getElem?.mp hc
  obtain ⟨f, hf, hcolumn⟩ := h.exists_field hi
  rw [hcolumn.field]
  exact hentity.fields fields marked hkind f (List.mem_of_getElem? hf)

/-- The imported types are declared. -/
theorem isWord_modelPath (h : IsTableOf decls textBound entity fields k t)
    (hdecls : decls.IsNamed) (hentity : entity.IsNamed) :
    ∀ p ∈ modelPaths t, IsWord p.name := by
  intro p hp
  rcases List.mem_cons.mp hp with rfl | hp
  · exact h.path ▸ hentity.name
  · obtain ⟨c, hc, hvia⟩ := List.mem_filterMap.mp hp
    obtain ⟨i, hi⟩ := List.mem_iff_getElem?.mp hc
    obtain ⟨f, -, hcolumn⟩ := h.exists_field hi
    have hresolves := ofType_eq_ok_iff.mp hcolumn.resolved
    generalize c.via = via at hvia hresolves
    generalize f.type = ref at hresolves
    cases hresolves with
    | direct => cases hvia
    | through hstands =>
        cases hstands with
        | synonym => cases hvia
        | newtype hdeclared =>
            obtain rfl := Option.some.inj hvia
            exact (hdecls _ (DeclSet.mem_of_get?_eq_some hdeclared)).name

end Rowsmith.Table.IsTableOf

namespace Rowsmith.Code

open Source Text

/-- What is known of the names of a compiled table. -/
structure HasWords (t : Table) : Prop where
  identity : ∃ c, t.identity? = some c
  name : t.name = snakeCase t.entity.name
  fields : ∀ c ∈ t.columns, IsWord c.field
  types : ∀ p ∈ modelPaths t, IsWord p.name

theorem hasWords_of_compile {decls : DeclSet} {textBound : Nat} {entity : Decl} {t : Table}
    (hdecls : decls.IsNamed) (hentity : entity.IsNamed)
    (h : Table.compile decls textBound entity = .ok t) : HasWords t := by
  obtain ⟨fields, marked, k, hkind, htable⟩ := Table.compile_eq_ok_iff.mp h
  obtain ⟨f, c, -, hc, -⟩ := htable.exists_identity
  refine ⟨⟨c, htable.identity?_eq.trans hc⟩, ?_, ?_, ?_⟩
  · rw [htable.name, htable.path]
    rfl
  · exact htable.isWord_field hentity hkind
  · exact htable.isWord_modelPath hdecls hentity

namespace HasWords

variable {t : Table} (h : HasWords t)

include h

theorem isWord_entity : IsWord t.entity.name :=
  h.types t.entity List.mem_cons_self

theorem writesFields_iff (o : Options) :
    (∀ place ∈ fieldPlaces t o, WritesFields place) ↔ ∀ c ∈ t.columns, c.field ∉ missedWords := by
  constructor
  · intro hplaces
    -- all fields are set where a row is read
    have hrow := hplaces (_, t.columns) (List.mem_cons_of_mem _ List.mem_cons_self)
    exact (Code.writesFields_iff h.fields (namesFields_fromRow h.fields)).mp hrow
  · intro hfields place hplace
    have hnames := namesFields_of_mem_fieldPlaces h.fields h.identity hplace
    exact (Code.writesFields_iff h.fields hnames).mpr fun c hc => hfields c (hnames.2 hc)

theorem isIdentifier_name_iff : IsIdentifier t.name ↔
    (∃ c, t.entity.name.toList.find? isAlphanumeric = some c ∧ isNameStart c = true) ∧
      snakeCase t.entity.name ∉ reservedWords := by
  rw [h.name]
  exact isIdentifier_snakeCase_iff h.isWord_entity

theorem imports_iff :
    (∀ path ∈ modelUses t, ∀ name ∈ belowCrate (segments path), IsIdentifier name) ↔
      (∀ p ∈ modelPaths t, ∀ name ∈ belowCrate (segments p.module), IsIdentifier name) ∧
        ∀ p ∈ modelPaths t, p.name ∉ reservedWords := by
  simp only [modelUses, mem_ordered, List.mem_map, forall_exists_index, and_imp,
    forall_apply_eq_imp_iff₂]
  rw [← forall₂_and]
  exact forall₂_congr fun p hp => forall_belowCrate_display_iff (h.types p hp)

end HasWords

/-- The names of the tables of collected entities are written as identifiers exactly
when none of them needs care. -/
theorem identifiers_iff {decls : DeclSet} {textBound : Nat} {ts : List Table} (o : Options)
    (hdecls : Collected decls)
    (hts : ∀ t ∈ ts, ∃ entity ∈ decls.decls, Table.compile decls textBound entity = .ok t) :
    WritesIdentifiers ts o ↔ ∀ t ∈ ts, IsPlainlyNamed t := by
  have hwords : ∀ t ∈ ts, HasWords t := by
    intro t ht
    obtain ⟨entity, hentity, hcompile⟩ := hts t ht
    exact hasWords_of_compile hdecls.isNamed (hdecls.isNamed entity hentity) hcompile
  have hmodules : (∀ name ∈ (rootModule ts).submodules, IsIdentifier name) ↔
      ∀ t ∈ ts, IsIdentifier t.name := by
    simp [submodules_rootModule]
  constructor
  · intro h t ht
    have himports := (hwords t ht).imports_iff.mp (h.imports t ht)
    have hname := (hwords t ht).isIdentifier_name_iff.mp (hmodules.mp h.modules t ht)
    exact ⟨((hwords t ht).writesFields_iff o).mp (h.fields t ht), hname.1, hname.2, himports.1,
      himports.2⟩
  · intro h
    refine ⟨fun t ht => ?_, hmodules.mpr fun t ht => ?_, fun t ht => ?_⟩
    · exact ((hwords t ht).writesFields_iff o).mpr (h t ht).fields
    · exact (hwords t ht).isIdentifier_name_iff.mpr ⟨(h t ht).start, (h t ht).table⟩
    · exact (hwords t ht).imports_iff.mpr ⟨(h t ht).modules, (h t ht).types⟩

/-- A source text with an entity, a field of which has the name of a keyword, and the
wrapper of another field. -/
def courierSource : String :=
  "struct Grams(i32); struct Parcel \x7b id: i64, weight: Grams, r\x23type: String \x7d"

/-- What it declares. -/
def courierDecls : DeclSet :=
  .insertAll {}
    [ ⟨⟨"crate::mail", "Grams"⟩, .newtype (.primitive .int32)⟩,
      ⟨⟨"crate::mail", "Parcel"⟩, .struct
        [ ⟨"id", .primitive .int64, "i64", none, false⟩,
          ⟨"weight", .named ⟨"crate::mail", "Grams"⟩, "Grams", none, false⟩,
          ⟨"type", .primitive .text, "String", none, false⟩ ] false⟩ ]

/-- The table of the entity. -/
def courierTable : Table where
  entity := ⟨"crate::mail", "Parcel"⟩
  name := "parcel"
  columns :=
    [ ⟨"id", "id", .bigInt, .int64, .direct, true, true⟩,
      ⟨"weight", "weight", .integer, .int32, .newtype ⟨"crate::mail", "Grams"⟩, false, false⟩,
      ⟨"type", "type", .varChar 255, .text, .direct, false, false⟩ ]

theorem source_courier :
    Collect.source "crate::mail" courierSource .empty = .ok courierDecls := by
  decide +kernel

theorem compile_courier :
    ∃ entity ∈ courierDecls.decls, Table.compile courierDecls 255 entity = .ok courierTable :=
  ⟨_, List.mem_cons_of_mem _ List.mem_cons_self, by decide +kernel⟩

/-- A source tree with this text. -/
def courierTree : Disk :=
  ⟨[(["src"], .directory), (["src", "mail.rs"], .file (.text courierSource))]⟩

theorem collectTree_courier :
    Command.collectTree courierTree "src" "out" = .ok courierDecls := by
  decide +kernel

theorem identifiers_iff_courier :
    Command.collectTree courierTree "src" "out" = .ok courierDecls ∧
      (∃ entity ∈ courierDecls.decls,
        Table.compile courierDecls 255 entity = .ok courierTable) ∧
      IsPlainlyNamed courierTable ∧ WritesIdentifiers [courierTable] {} := by
  have hnamed : IsPlainlyNamed courierTable := by
    refine ⟨by decide +kernel, ⟨'P', by decide +kernel, by decide⟩, by decide +kernel, ?_, by
      decide +kernel⟩
    have hmodule : belowCrate (segments "crate::mail") = ["mail"] := by decide +kernel
    intro p hp name hname
    have hmail : p.module = "crate::mail" := by
      have hall : ∀ p ∈ modelPaths courierTable, p.module = "crate::mail" := by decide +kernel
      exact hall p hp
    rw [hmail, hmodule, List.mem_singleton] at hname
    rw [hname]
    exact .inl ⟨by decide +kernel, by decide +kernel⟩
  have hall : ∀ t ∈ [courierTable], ∃ entity ∈ courierDecls.decls,
      Table.compile courierDecls 255 entity = .ok t :=
    List.forall_mem_singleton.mpr compile_courier
  have hwrites := (identifiers_iff {} (Command.collected_of_collectTree collectTree_courier)
    hall).mpr (List.forall_mem_singleton.mpr hnamed)
  exact ⟨collectTree_courier, compile_courier, hnamed, hwrites⟩

/-- An entity with a field whose name is a keyword that is not marked. -/
def attempt : Decl where
  path := ⟨"crate", "Attempt"⟩
  kind := .struct
    [ ⟨"id", .primitive .int64, "i64", none, false⟩,
      ⟨"try", .primitive .int32, "i32", none, false⟩ ] false

/-- Its table. -/
def attemptTable : Table where
  entity := ⟨"crate", "Attempt"⟩
  name := "attempt"
  columns :=
    [ ⟨"id", "id", .bigInt, .int64, .direct, true, true⟩,
      ⟨"try", "try", .integer, .int32, .direct, false, false⟩ ]

/-- A source text has to mark the field as raw, and the code that reads a row does not. -/
theorem field_try_unmarked :
    Collect.source "crate" "struct Attempt \x7b id: i64, r\x23try: i32 \x7d" .empty =
        .ok (.insert {} attempt) ∧
      Table.compile (.insert {} attempt) 255 attempt = .ok attemptTable ∧
      (accessorFile attemptTable {}).linesOf "from_row" "Ok(Attempt \x7b" =
        ["id: row.try_get(0)?,", "try: row.try_get(1)?,"] ∧
      ¬ WritesIdentifiers [attemptTable] {} := by
  have hsource : Collect.source "crate" "struct Attempt \x7b id: i64, r\x23try: i32 \x7d" .empty =
      .ok (.insert {} attempt) := by
    decide +kernel
  have hcompile : Table.compile (.insert {} attempt) 255 attempt = .ok attemptTable := by
    decide +kernel
  refine ⟨hsource, hcompile, by rfl, fun h => ?_⟩
  have hdecls := (Collected.empty.source hsource).isNamed
  have hwords := hasWords_of_compile hdecls (hdecls _ List.mem_cons_self) hcompile
  have hfields := (hwords.writesFields_iff {}).mp (h.fields attemptTable List.mem_cons_self)
  exact hfields _ (List.mem_cons_of_mem _ List.mem_cons_self) (by decide +kernel)

end Rowsmith.Code
