/-
# How columns are selected

A text of fixed width comes back from PostgreSQL with blanks behind it, so the
emitted selection trims the column. Whether a column has such a type is decided by a
list of names in lower case with one blank between their words. One spelling that
PostgreSQL knows is not in the list. `matchesStorage_iff` says that every column is
selected as its values are stored, except where a field asks for that spelling.
-/

import Rowsmith.Proofs.Code.Positions
import Rowsmith.Proofs.Table.TypeText

namespace Rowsmith

open Text

/-! ## Names in lower case -/

namespace ExplicitType

/-- A name has the words that it is made of. -/
theorem words_nameOf {ws : List (List Char)} (h : ∀ w ∈ ws, IsRun w) (hne : ws ≠ []) :
    words (nameOf ws).toList = ws := by
  rw [toList_nameOf]
  exact (Spaced.intercalate h hne).words_eq

theorem map_toLower_nameOf (ws : List (List Char)) :
    (nameOf ws).map Char.toLower = nameOf (ws.map (List.map Char.toLower)) := by
  apply String.toList_inj.mp
  rw [String.toList_map, toList_nameOf, toList_nameOf]
  induction ws with
  | nil => rfl
  | cons w ws ih =>
      cases ws with
      | nil => simp
      | cons next ws =>
          simp only [List.map_cons, List.intercalate_cons_cons, List.map_append] at ih ⊢
          rw [ih]
          rfl

theorem IsTypeWord.isRun_toLower {w : List Char} (h : IsTypeWord w) :
    IsRun (w.map Char.toLower) := by
  have hascii : ∀ n : Fin 0x80, (Char.ofNat n).isAlphanum = true →
      isBlank (Char.ofNat n).toLower = false := by
    decide
  refine ⟨by simpa using h.isRun.ne_nil, fun d hd => ?_⟩
  obtain ⟨c, hc, rfl⟩ := List.mem_map.mp hd
  rcases h.isAlphanum_or_eq c hc with hc | rfl
  · simpa using hascii ⟨c.toNat, (toNat_of_isAlphanum hc).2⟩ (by simpa using hc)
  · rfl

end ExplicitType

/-! ## What a column is stored as -/

namespace Code

open Statement

/-- How PostgreSQL spells the character type whose values it fills with blanks, word by
word. -/
def paddedSpellings : List (List String) :=
  [["char"], ["character"], ["nchar"], ["national", "char"], ["national", "character"], ["bpchar"]]

/-- The spelling that the list of padded names misses. -/
def missedSpelling : List String :=
  ["national", "char"]

/-- The field asks for the type that is spelled so, with letters of either case, any blanks
and perhaps a parameter. -/
def AsksFor (f : FieldDecl) (spelling : List String) : Prop :=
  ∃ text ws param, f.columnType = some text ∧ ExplicitType.Writes ws param (trim text.toList) ∧
    ws.map (List.map Char.toLower) = spelling.map String.toList

/-- The field asks for a type whose values come back with blanks behind them. -/
def AsksPadded (f : FieldDecl) : Prop :=
  ∃ spelling ∈ paddedSpellings, AsksFor f spelling

/-- What is selected for the column `c` of the field `f` fits how PostgreSQL stores it: a
truth value is compared, a padded text trimmed, and all others are selected by name. -/
structure MatchesStorage (f : FieldDecl) (c : Column) (expression : String) : Prop where
  bool : expression = s!"({c.name} = '1')" ↔ c.kind = .bool
  trimmed : expression = s!"rtrim({c.name})" ↔ c.kind = .text ∧ AsksPadded f
  plain : expression = c.name ↔ c.kind ≠ .bool ∧ ¬(c.kind = .text ∧ AsksPadded f)

variable {decls : DeclSet} {textBound : Nat} {isIdentity : Bool} {f : FieldDecl} {c : Column}
  {spelling : List String}

theorem isRun_of_mem_paddedSpellings (h : spelling ∈ paddedSpellings) :
    spelling ≠ [] ∧ ∀ word ∈ spelling, IsRun word.toList := by
  have hcheck : ∀ spelling ∈ paddedSpellings, spelling ≠ [] ∧ ∀ word ∈ spelling,
      word.toList ≠ [] ∧ word.toList.any isBlank = false := by
    decide
  obtain ⟨hne, hwords⟩ := hcheck spelling h
  exact ⟨hne, fun word hword =>
    ⟨(hwords word hword).1, by simpa using (hwords word hword).2⟩⟩

/-- The list of padded names has all spellings but one. -/
theorem mem_blankPaddedNames_iff {name : String} :
    name ∈ ColumnType.blankPaddedNames ↔ ∃ spelling ∈ paddedSpellings,
      spelling ≠ missedSpelling ∧ name = " ".intercalate spelling := by
  have hforward : ∀ name ∈ ColumnType.blankPaddedNames, ∃ spelling ∈ paddedSpellings,
      spelling ≠ missedSpelling ∧ name = " ".intercalate spelling := by
    decide
  have hback : ∀ spelling ∈ paddedSpellings, spelling ≠ missedSpelling →
      " ".intercalate spelling ∈ ColumnType.blankPaddedNames := by
    decide
  refine ⟨hforward name, ?_⟩
  rintro ⟨spelling, hspelling, hne, rfl⟩
  exact hback spelling hspelling hne

/-- A column is of the type that its field asks for, if it asks for any. -/
theorem explicit_iff (h : Table.IsColumnOf decls textBound isIdentity f c)
    {type : ExplicitType} : c.type = .explicit type ↔
      ∃ text, f.columnType = some text ∧ ExplicitType.parse text = .ok type := by
  have htype := h.type
  unfold ColumnType.ofKind at htype
  split at htype
  next text hasked =>
    obtain ⟨type', hparse, heq⟩ := map_eq_ok_iff.mp htype
    rw [hasked, ← heq]
    simp [hparse, eq_comm]
  next hasked =>
    rw [hasked]
    refine iff_of_false (fun heq => ?_) (by simp)
    rw [heq] at htype
    cases hkind : c.kind <;> simp [hkind] at htype

theorem asksFor_iff (h : Table.IsColumnOf decls textBound isIdentity f c)
    (hspelling : spelling ∈ paddedSpellings) :
    AsksFor f spelling ↔ ∃ type, c.type = .explicit type ∧
      type.name.map Char.toLower = " ".intercalate spelling := by
  obtain ⟨hne, hruns⟩ := isRun_of_mem_paddedSpellings hspelling
  have hname : ExplicitType.nameOf (spelling.map String.toList) = " ".intercalate spelling := by
    simp [ExplicitType.nameOf, Function.comp_def]
  have hread : words (" ".intercalate spelling).toList = spelling.map String.toList := by
    rw [← hname]
    exact ExplicitType.words_nameOf (by simpa using hruns) (by simpa using hne)
  simp only [explicit_iff h]
  constructor
  · rintro ⟨text, ws, param, htext, hwrites, hws⟩
    refine ⟨⟨ExplicitType.nameOf ws, param⟩, ⟨text, htext, ?_⟩, ?_⟩
    · exact ExplicitType.parse_eq_ok_iff_writes.mpr ⟨ws, hwrites, rfl⟩
    · rw [ExplicitType.map_toLower_nameOf, hws, hname]
  · rintro ⟨type, ⟨text, htext, hparse⟩, hlower⟩
    obtain ⟨ws, hwrites, htype⟩ := ExplicitType.parse_eq_ok_iff_writes.mp hparse
    obtain ⟨-, hwsne, hwords⟩ := hwrites.reads
    have hlowered : ∀ w ∈ ws.map (List.map Char.toLower), IsRun w := by
      simpa using fun w hw => (hwords w hw).isRun_toLower
    refine ⟨text, ws, type.param, htext, hwrites, ?_⟩
    rw [← hread, ← hlower, htype, ExplicitType.map_toLower_nameOf,
      ExplicitType.words_nameOf hlowered (by simpa using hwsne)]

/-- A column counts as padded exactly when its field asks for one of the spellings, but for
the one that is missed. -/
theorem isBlankPadded_iff (h : Table.IsColumnOf decls textBound isIdentity f c)
    {dialect : Dialect} :
    c.type.isBlankPadded dialect = true ↔ dialect = .postgres ∧
      ∃ spelling ∈ paddedSpellings, spelling ≠ missedSpelling ∧ AsksFor f spelling := by
  have hnamed : c.type.isBlankPadded dialect = true ↔ dialect = .postgres ∧
      ∃ type, c.type = .explicit type ∧
        type.name.map Char.toLower ∈ ColumnType.blankPaddedNames := by
    cases c.type <;> simp [ColumnType.isBlankPadded]
  rw [hnamed]
  simp only [mem_blankPaddedNames_iff]
  refine and_congr_right fun _ => ⟨?_, ?_⟩
  · rintro ⟨type, htype, spelling, hspelling, hne, hlower⟩
    exact ⟨spelling, hspelling, hne, (asksFor_iff h hspelling).mpr ⟨type, htype, hlower⟩⟩
  · rintro ⟨spelling, hspelling, hne, hasks⟩
    obtain ⟨type, htype, hlower⟩ := (asksFor_iff h hspelling).mp hasks
    exact ⟨type, htype, spelling, hspelling, hne, hlower⟩

/-- A field asks for one type only. -/
theorem AsksFor.unique (h : Table.IsColumnOf decls textBound isIdentity f c)
    {spelling' : List String} (hspelling : spelling ∈ paddedSpellings)
    (hspelling' : spelling' ∈ paddedSpellings) (hasks : AsksFor f spelling)
    (hasks' : AsksFor f spelling') : spelling = spelling' := by
  have hdistinct : ∀ spelling ∈ paddedSpellings, ∀ spelling' ∈ paddedSpellings,
      " ".intercalate spelling = " ".intercalate spelling' → spelling = spelling' := by
    decide
  obtain ⟨type, htype, hlower⟩ := (asksFor_iff h hspelling).mp hasks
  obtain ⟨type', htype', hlower'⟩ := (asksFor_iff h hspelling').mp hasks'
  obtain rfl := ColumnType.explicit.inj (htype.symm.trans htype')
  exact hdistinct _ hspelling _ hspelling' (hlower.symm.trans hlower')

/-! ## What is selected -/

/-- The three ways to select a column are written with different numbers of characters. -/
theorem render_inj {p q : Projection} {name : String} :
    p.render name = q.render name ↔ p = q := by
  refine ⟨fun h => ?_, fun h => h ▸ rfl⟩
  have hlength := congrArg (fun text => text.toList.length) h
  cases p <;> cases q <;> simp [Projection.render] at hlength ⊢ <;> omega

theorem projection_eq_bool_iff {o : Options} : projection o c = .bool ↔ c.kind = .bool := by
  unfold projection
  cases c.kind <;> simp
  split <;> simp

/-- Trimmed are the columns of texts whose type counts as padded. -/
theorem projection_eq_trimmed_iff (h : Table.IsColumnOf decls textBound isIdentity f c)
    {o : Options} :
    projection o c = .trimmed ↔ c.kind = .text ∧ o.dialect = .postgres ∧
      ∃ spelling ∈ paddedSpellings, spelling ≠ missedSpelling ∧ AsksFor f spelling := by
  rw [← isBlankPadded_iff h]
  unfold projection
  cases c.kind <;> simp

theorem projection_eq_plain_iff {o : Options} :
    projection o c = .plain ↔ projection o c ≠ .bool ∧ projection o c ≠ .trimmed := by
  cases projection o c <;> simp

/-- The missed spelling does not count as padded. -/
theorem projection_ne_trimmed (h : Table.IsColumnOf decls textBound isIdentity f c) {o : Options}
    (hasks : AsksFor f missedSpelling) : projection o c ≠ .trimmed := by
  intro htrimmed
  obtain ⟨-, -, spelling, hspelling, hne, hother⟩ := (projection_eq_trimmed_iff h).mp htrimmed
  exact hne (hother.unique h hspelling (by decide) hasks)

/-- A column is selected as its values are stored, unless its field asks for the missed
spelling. -/
theorem matchesStorage_render_iff (h : Table.IsColumnOf decls textBound isIdentity f c)
    {o : Options} (hdialect : o.dialect = .postgres) :
    MatchesStorage f c ((projection o c).render c.name) ↔
      ¬(c.kind = .text ∧ AsksFor f missedSpelling) := by
  constructor
  · rintro ⟨-, htrimmed, -⟩ ⟨htext, hasks⟩
    have hpadded : AsksPadded f := ⟨missedSpelling, by decide, hasks⟩
    exact projection_ne_trimmed h hasks
      ((render_inj (q := .trimmed)).mp (htrimmed.mpr ⟨htext, hpadded⟩))
  · intro hnone
    have htrimmed : projection o c = .trimmed ↔ c.kind = .text ∧ AsksPadded f := by
      rw [projection_eq_trimmed_iff h, and_iff_right hdialect]
      refine and_congr_right fun htext => ⟨?_, ?_⟩
      · rintro ⟨spelling, hspelling, -, hasks⟩
        exact ⟨spelling, hspelling, hasks⟩
      · rintro ⟨spelling, hspelling, hasks⟩
        exact ⟨spelling, hspelling, fun heq => hnone ⟨htext, heq ▸ hasks⟩, hasks⟩
    have hplain : projection o c = .plain ↔
        c.kind ≠ .bool ∧ ¬(c.kind = .text ∧ AsksPadded f) := by
      rw [projection_eq_plain_iff, ← htrimmed, Ne, projection_eq_bool_iff]
    exact ⟨(render_inj (q := .bool)).trans projection_eq_bool_iff,
      (render_inj (q := .trimmed)).trans htrimmed, (render_inj (q := .plain)).trans hplain⟩

/-- For PostgreSQL every column of a compiled table is selected as its values are stored,
exactly unless its values are texts and its field asks for the spelling that is missed: then
it is selected by its name. For MySQL no column is trimmed. -/
theorem matchesStorage_iff {decls : DeclSet} {textBound : Nat} {entity : Decl} {t : Table}
    {fields : List FieldDecl} {marked : Bool} (o : Options)
    (h : Table.compile decls textBound entity = .ok t)
    (hkind : entity.kind = .struct fields marked) :
    ∃ select, ((accessorFile t o).constant? "SELECT_SQL").map Constant.value =
        some (Text.quoted select) ∧
      (selectedExpressions select).length = fields.length ∧
      ∀ (i : Nat) (f : FieldDecl) (c : Column) (expression : String), fields[i]? = some f →
        t.columns[i]? = some c → (selectedExpressions select)[i]? = some expression →
          (o.dialect = .postgres → (MatchesStorage f c expression ↔
            ¬(c.kind = .text ∧ AsksFor f missedSpelling))) ∧
          (c.kind = .text → AsksFor f missedSpelling → expression = c.name) ∧
          (o.dialect = .mySql → expression ≠ s!"rtrim({c.name})") := by
  obtain ⟨fields', marked', k, hkind', htable⟩ := Table.compile_eq_ok_iff.mp h
  obtain ⟨rfl, rfl⟩ := DeclKind.struct.inj (hkind.symm.trans hkind')
  have hselected := (htable.setsSelected o).expressions
  refine ⟨selectSql t o, constant?_selectSql t o, by simp [hselected, htable.length], ?_⟩
  intro i f c expression hf hc hexpression
  have hcolumn := htable.column i f c hf hc
  obtain rfl : (projection o c).render c.name = expression := by
    simpa [hselected, hc] using hexpression
  refine ⟨matchesStorage_render_iff hcolumn, fun htext hasks => ?_, fun hdialect hrtrim => ?_⟩
  · have hplain : projection o c = .plain := by
      rw [projection_eq_plain_iff, Ne, projection_eq_bool_iff, htext]
      exact ⟨by decide, projection_ne_trimmed hcolumn hasks⟩
    rw [hplain]
    rfl
  · have htrimmed : projection o c = .trimmed := (render_inj (q := .trimmed)).mp hrtrim
    obtain ⟨-, hpostgres, -⟩ := (projection_eq_trimmed_iff hcolumn).mp htrimmed
    rw [hdialect] at hpostgres
    cases hpostgres

/-! ## A code in national characters -/

/-- A field that asks for texts of fixed width. -/
def couponCode : FieldDecl :=
  ⟨"code", .primitive .text, "String", some "National\tCHAR ( 10 )", false⟩

/-- An entity with such a field. -/
def coupon : Decl where
  path := ⟨"crate", "Coupon"⟩
  kind := .struct [⟨"id", .primitive .int64, "i64", none, false⟩, couponCode] true

/-- The column of the field. -/
def couponCodeColumn : Column :=
  ⟨"code", "code", .explicit ⟨"National CHAR", some 10⟩, .text, .direct, false, false⟩

/-- The table of the entity. -/
def couponTable : Table where
  entity := ⟨"crate", "Coupon"⟩
  name := "coupon"
  columns := [⟨"id", "id", .bigInt, .int64, .direct, true, true⟩, couponCodeColumn]

theorem compile_coupon : Table.compile {} 255 coupon = .ok couponTable :=
  eq_ok_of_toOption (by decide +kernel)

theorem asksFor_couponCode : AsksFor couponCode missedSpelling := by
  have hcolumn : Table.column {} 255 "Coupon" false couponCode = .ok couponCodeColumn :=
    eq_ok_of_toOption (by decide +kernel)
  exact (asksFor_iff (Table.column_eq_ok_iff.mp hcolumn) (by decide)).mpr
    ⟨⟨"National CHAR", some 10⟩, rfl, by decide +kernel⟩

theorem matchesStorage_iff_coupon :
    Table.compile {} 255 coupon = .ok couponTable ∧
      ∃ select, ((accessorFile couponTable {}).constant? "SELECT_SQL").map Constant.value =
          some (Text.quoted select) ∧
        ∀ expression, (selectedExpressions select)[1]? = some expression →
          expression = "code" ∧ ¬MatchesStorage couponCode couponCodeColumn expression := by
  obtain ⟨select, hconstant, -, hselected⟩ := matchesStorage_iff {} compile_coupon rfl
  refine ⟨compile_coupon, select, hconstant, fun expression hexpression => ?_⟩
  obtain ⟨hmatches, hplain, -⟩ :=
    hselected 1 couponCode couponCodeColumn expression rfl rfl hexpression
  exact ⟨hplain rfl asksFor_couponCode, fun h => (hmatches rfl).mp h ⟨rfl, asksFor_couponCode⟩⟩

/-- The code of a coupon is a text that PostgreSQL fills with blanks, and is selected with
them. -/
theorem code_selected_untrimmed :
    Table.compile {} 255 coupon = .ok couponTable ∧
      couponTable.columns[1]? = some couponCodeColumn ∧ couponCodeColumn.kind = .text ∧
      AsksPadded couponCode ∧
      ((accessorFile couponTable {}).constant? "SELECT_SQL").map Constant.value =
        some (Text.quoted "select id, code from coupon") ∧
      selectedExpressions "select id, code from coupon" = ["id", "code"] ∧
      ¬MatchesStorage couponCode couponCodeColumn "code" := by
  have hpadded : AsksPadded couponCode := ⟨missedSpelling, by decide, asksFor_couponCode⟩
  refine ⟨compile_coupon, rfl, rfl, hpadded, by decide +kernel, by decide +kernel, ?_⟩
  intro hmatches
  exact absurd (hmatches.trimmed.mpr ⟨rfl, hpadded⟩) (by decide)

end Code

end Rowsmith
