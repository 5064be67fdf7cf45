/-
# Emitted constants denote their values

The accessors of a table keep its name, the names of its columns and its two fixed
statements in constants. Each is written as string literals, and read back here from
the printed line: by the scanner of source texts, which cuts it into tokens, and by
the reader of literals, which resolves the escapes. `constants_denote` says that this
gives the values themselves, whatever characters are in them, and that no literal
breaks the line it stands on.
-/

import Rowsmith.Code.Printer
import Rowsmith.Proofs.Code.ColumnNames
import Rowsmith.Proofs.Code.ModuleTree
import Rowsmith.Proofs.Source.Literals

namespace Rowsmith.Code

open Source Table Text

/-! ## Literals -/

/-- `literal` is one string literal for `s` on one line: its quotes are escaped, but for
the two that enclose it. -/
structure IsLiteralOf (literal s : String) : Prop where
  value : Literal.string? literal = some s
  token : tokens? literal.toList = some [.literal literal]
  unbroken : ∀ c ∈ lineBreaks, c ∉ literal.toList
  closed : ∀ before after, literal.toList = '"' :: (before ++ '"' :: after) →
    (opensEscape before = false ↔ after = [])

theorem not_mem_quoted {c : Char} (hc : c ∈ lineBreaks) (s : String) : c ∉ (quoted s).toList :=
  fun hmem => not_mem_lineBreaks (isVisible_of_mem_quoted hmem) hc

theorem isLiteralOf_quoted (s : String) : IsLiteralOf (quoted s) s where
  value := string?_quoted s
  token := (Scan.leads_quoted s {} rfl).tokens?_eq (by rw [toList_quoted]; rfl)
  unbroken _ hc := not_mem_quoted hc s
  closed _ _ := opensEscape_eq_false_iff

/-! ## Printed constants -/

/-- A text that is one name before the colon of a constant. -/
structure IsConstantName (name : String) : Prop where
  scanned : ∃ n, Scan.IsScanned name ':' [.name n]
  visible : name.toList.all isVisible = true

/-- The constant has no documentation, its type has no string literals in it, and those of
its value denote `values`. Nothing in it breaks a line. -/
structure Constant.Holds (c : Constant) (values : List String) : Prop where
  doc : c.doc = []
  name : IsConstantName c.name
  type : ∃ ts, Scan.IsScanned c.type ' ' ts ∧ Token.stringsOfList ts = []
  value : ∃ ts, Scan.IsScanned c.value ';' ts ∧ Token.stringsOfList ts = values
  unbroken : ∀ d ∈ lineBreaks, d ∉ c.type.toList ∧ d ∉ c.value.toList

/-- The line of a constant without documentation. -/
def constantLine (c : Constant) : String :=
  visibility c.isPublic ++ s!"const {c.name}: {c.type} = {c.value};"

theorem toList_constantLine (c : Constant) :
    (constantLine c).toList = (visibility c.isPublic).toList ++ ("const ".toList ++
      (c.name.toList ++ (": ".toList ++ (c.type.toList ++ (" = ".toList ++
        (c.value.toList ++ ";".toList)))))) := by
  simp [constantLine]

theorem isWord_pub : isWord "pub".toList = true := by decide

theorem isWord_const : isWord "const".toList = true := by decide

/-- The tokens before the name of a constant. -/
def keywords (isPublic : Bool) : List Token :=
  let const : Token := .name ⟨"const", false, isWord_const⟩
  if isPublic then [.name ⟨"pub", false, isWord_pub⟩, const] else [const]

theorem leads_keywords (isPublic : Bool) (rest : List Char) :
    Scan.Leads ((visibility isPublic).toList ++ "const ".toList) rest {}
      ⟨[], (keywords isPublic).reverse⟩ := by
  cases isPublic with
  | false => exact ⟨1, by decide, fun _ => rfl⟩
  | true => exact ⟨2, by decide, fun _ => rfl⟩

theorem printConstant_eq {c : Constant} (hdoc : c.doc = []) :
    printConstant c = constantLine c ++ "\n" := by
  rw [printConstant, hdoc]
  exact String.toList_inj.mp (by simp [printDoc, constantLine])

/-- The tokens of a printed constant. -/
theorem tokens?_printConstant {c : Constant} {n : Name} {type value : List Token}
    (hdoc : c.doc = []) (hname : Scan.IsScanned c.name ':' [.name n])
    (htype : Scan.IsScanned c.type ' ' type) (hvalue : Scan.IsScanned c.value ';' value) :
    tokens? (printConstant c).toList =
      some (keywords c.isPublic ++ .name n :: .punct ':' false :: type ++
        .punct '=' false :: value ++ [.punct ';' false]) := by
  have htext : (printConstant c).toList =
      (visibility c.isPublic).toList ++ "const ".toList ++ (c.name.toList ++ ([':', ' '] ++
        (c.type.toList ++ ([' ', '=', ' '] ++ (c.value.toList ++ [';', '\n']))))) := by
    rw [printConstant_eq hdoc, String.toList_append, toList_constantLine]
    simp
  have hmark : dropByteOrderMark (printConstant c).toList = (printConstant c).toList := by
    rw [htext]
    cases c.isPublic with
    | false => rfl
    | true => rfl
  have hcolon (x : Scan.State) (rest : List Char) :
      Scan.Leads [':', ' '] rest x { x with done := .punct ':' false :: x.done } :=
    ⟨1, by decide, fun _ => rfl⟩
  have hequals (x : Scan.State) (rest : List Char) :
      Scan.Leads [' ', '=', ' '] rest x { x with done := .punct '=' false :: x.done } :=
    ⟨1, by decide, fun _ => rfl⟩
  have hend (x : Scan.State) :
      Scan.Leads [';', '\n'] [] x { x with done := .punct ';' false :: x.done } :=
    ⟨1, by decide, fun _ => rfl⟩
  have hscan := (leads_keywords c.isPublic _).append ((hname _ _).append ((hcolon _ _).append
    ((htype _ _).append ((hequals _ _).append ((hvalue _ _).append (hend _))))))
  rw [← htext] at hscan
  rw [hscan.tokens?_eq hmark]
  simp

namespace Constant.Holds

variable {c : Constant} {values : List String}

theorem not_mem_constantLine (h : c.Holds values) {d : Char} (hd : d ∈ lineBreaks) :
    d ∉ (constantLine c).toList := by
  obtain ⟨htype, hvalue⟩ := h.unbroken d hd
  have hvisibility : (visibility c.isPublic).toList.all isVisible = true := by
    cases c.isPublic <;> decide
  have hname := h.name.visible
  simp only [toList_constantLine, List.mem_append, not_or]
  refine ⟨?_, ?_, ?_, ?_, htype, ?_, hvalue, ?_⟩
  · exact not_mem_of_all_isVisible hd hvisibility
  · exact not_mem_of_all_isVisible hd (by decide)
  · exact not_mem_of_all_isVisible hd hname
  · exact not_mem_of_all_isVisible hd (by decide)
  · exact not_mem_of_all_isVisible hd (by decide)
  · exact not_mem_of_all_isVisible hd (by decide)

/-- The string literals of a printed constant are those of its value. -/
theorem stringLiterals?_printConstant (h : c.Holds values) :
    stringLiterals? (printConstant c) = some values := by
  obtain ⟨n, hname⟩ := h.name.scanned
  obtain ⟨type, htype, hnone⟩ := h.type
  obtain ⟨value, hvalue, hstrings⟩ := h.value
  have hkeywords : Token.stringsOfList (keywords c.isPublic) = [] := by
    cases c.isPublic with
    | false => rfl
    | true => rfl
  rw [stringLiterals?, tokens?_printConstant h.doc hname htype hvalue]
  simp [Token.stringsOfList_append, Token.stringsOfList, Token.strings, hkeywords, hnone, hstrings]

end Constant.Holds

theorem isScanned_textType :
    Scan.IsScanned "&str" ' ' [.punct '&' false, .name ⟨"str", false, by decide⟩] :=
  fun _ _ => ⟨2, by decide, fun _ => rfl⟩

theorem isScanned_listType :
    Scan.IsScanned "&[&str]" ' '
      [.punct '&' false, .group .bracket [.punct '&' false, .name ⟨"str", false, by decide⟩]] :=
  fun _ _ => ⟨5, by decide, fun _ => rfl⟩

/-- A constant that holds one text. -/
theorem holds_text (isPublic : Bool) {name : String} (hname : IsConstantName name) (s : String) :
    Constant.Holds ⟨[], isPublic, name, "&str", quoted s⟩ [s] where
  doc := rfl
  name := hname
  type := ⟨_, isScanned_textType, rfl⟩
  value := ⟨[.literal (quoted s)], Scan.isScanned_quoted s rfl, by simp [Token.stringsOfList]⟩
  unbroken d hd := by
    have htype : d ∉ "&str".toList := not_mem_of_all_isVisible hd (by decide)
    exact ⟨htype, not_mem_quoted hd s⟩

/-- A constant that holds a list of texts. -/
theorem holds_list (isPublic : Bool) {name : String} (hname : IsConstantName name)
    (names : List String) :
    Constant.Holds
      ⟨[], isPublic, name, "&[&str]", "&[" ++ ", ".intercalate (names.map quoted) ++ "]"⟩
      names where
  doc := rfl
  name := hname
  type := ⟨_, isScanned_listType, rfl⟩
  value := by
    obtain ⟨ts, hts, hstrings⟩ := Scan.exists_isScanned_intercalate names
    refine ⟨[.punct '&' false, .group .bracket ts], fun x rest => ?_, ?_⟩
    · have hreference : Scan.Leads ['&']
          (("[" ++ ", ".intercalate (names.map quoted) ++ "]").toList ++ ';' :: rest) x
          { x with done := .punct '&' false :: x.done } := by
        simp only [String.toList_append]
        exact ⟨1, by decide, fun _ => rfl⟩
      have hscan := hreference.append (hts.bracket ';' _ rest)
      simpa using hscan
    · simpa [Token.stringsOfList, Token.strings] using hstrings
  unbroken d hd := by
    have hcomma : d ∉ ", ".toList := not_mem_of_all_isVisible hd (by decide)
    have hnames : d ∉ (", ".intercalate (names.map quoted)).toList := by
      refine Statement.not_mem_toList_intercalate hcomma fun part hpart => ?_
      obtain ⟨s, -, rfl⟩ := List.mem_map.mp hpart
      exact not_mem_quoted hd s
    have htype : d ∉ "&[&str]".toList := not_mem_of_all_isVisible hd (by decide)
    have hopening : d ∉ "&[".toList := not_mem_of_all_isVisible hd (by decide)
    have hclosing : d ∉ "]".toList := not_mem_of_all_isVisible hd (by decide)
    refine ⟨htype, ?_⟩
    simp only [String.toList_append, List.mem_append, not_or]
    exact ⟨⟨hopening, hnames⟩, hclosing⟩

/-! ## Constants of a file -/

/-- A file prints its constant `c`, with the name `name`, as one line, on which the string
literals denote `values`. -/
structure File.PrintsAs (f : File) (name : String) (values : List String) (c : Constant)
    (line : String) : Prop where
  constant : f.constant? name = some c
  text : printConstant c = line ++ "\n"
  unbroken : ∀ d ∈ lineBreaks, d ∉ line.toList
  printed : ∀ header, line ∈ lines (printFile header f)
  literals : stringLiterals? (printConstant c) = some values

/-- The string literals of the constant `name` denote `values`, from left to right. -/
def File.Denotes (f : File) (name : String) (values : List String) : Prop :=
  ∃ c line, f.PrintsAs name values c line

theorem File.mem_items_of_constant? {f : File} {name : String} {c : Constant}
    (h : f.constant? name = some c) : .constant c ∈ f.items := by
  obtain ⟨item, hitem, hconstant⟩ := List.exists_of_findSome?_eq_some h
  cases item with
  | constant d =>
      obtain ⟨-, hsame⟩ := Option.ite_none_right_eq_some.mp hconstant
      rwa [← Option.some.inj hsame]
  | _ => cases hconstant

/-- A constant that is printed on one line is a line of its file. -/
theorem File.mem_lines_printFile {f : File} {c : Constant} {line : String} (header : String)
    (hc : .constant c ∈ f.items) (htext : printConstant c = line ++ "\n")
    (hbroken : ∀ d ∈ lineBreaks, d ∉ line.toList) : line ∈ lines (printFile header f) := by
  obtain ⟨before, after, hitems⟩ := List.append_of_mem hc
  have hfile : printFile header f =
      header ++ "\n" ++ String.join (before.map fun i => "\n" ++ printItem i) ++ "\n" ++
        (line ++ "\n" ++ String.join (after.map fun i => "\n" ++ printItem i)) := by
    rw [printFile, hitems, List.map_append, List.map_cons, printItem, htext]
    exact String.toList_inj.mp (by simp)
  rw [hfile]
  exact mem_lines (hbroken '\n' (by decide)) (hbroken '\r' (by decide)) _ _

theorem Constant.Holds.denotes {f : File} {name : String} {c : Constant} {values : List String}
    (h : c.Holds values) (hc : f.constant? name = some c) : f.Denotes name values := by
  have htext : printConstant c = constantLine c ++ "\n" := printConstant_eq h.doc
  have hbroken : ∀ d ∈ lineBreaks, d ∉ (constantLine c).toList := fun d hd =>
    h.not_mem_constantLine hd
  exact ⟨c, constantLine c, hc, htext, hbroken,
    fun header => File.mem_lines_printFile header (File.mem_items_of_constant? hc) htext hbroken,
    h.stringLiterals?_printConstant⟩

/-! ## The constants of a table -/

theorem isConstantName_of_mem {name : String}
    (h : name ∈ ["TABLE", "IDENTITY", "COLUMNS", "INSERT_SQL", "SELECT_SQL"]) :
    IsConstantName name := by
  have hword : isWord name.toList = true := by
    revert name
    decide
  refine ⟨⟨⟨name, false, hword⟩, ?_⟩, ?_⟩
  · simp only [List.mem_cons, List.not_mem_nil, or_false] at h
    rcases h with rfl | rfl | rfl | rfl | rfl
    -- the scanner runs on the name, whatever stands behind the colon
    all_goals exact fun _ _ => ⟨1, by decide, fun _ => rfl⟩
  · revert name
    decide

/-- Every text is read back from its literal, and the literals in the constants of a
compiled table denote its name, its identity, its columns in order and its statements. -/
theorem constants_denote {decls : DeclSet} {textBound : Nat} {entity : Decl} {t : Table}
    (o : Options) (h : Table.compile decls textBound entity = .ok t) :
    (∀ s, IsLiteralOf (quoted s) s) ∧ ∃ identity, t.identity? = some identity ∧
      identity.primaryKey = true ∧
      (accessorFile t o).Denotes "TABLE" [t.name] ∧
      (accessorFile t o).Denotes "IDENTITY" [identity.name] ∧
      (accessorFile t o).Denotes "COLUMNS" (t.columns.map Column.name) ∧
      (accessorFile t o).Denotes "INSERT_SQL"
        [Statement.insertSql o.dialect t.name (t.insertColumns.map Column.name) identity.name] ∧
      (accessorFile t o).Denotes "SELECT_SQL"
        [Statement.selectSql t.name (t.columns.map fun c => (c.name, projection o c))] := by
  obtain ⟨fields, -, k, -, htable⟩ := compile_eq_ok_iff.mp h
  obtain ⟨⟨c, hc, hidentity⟩, hprimary⟩ := htable.identityAt
  have hname : t.identityName = c.name := by
    rw [identityName, hidentity, Option.map_some, Option.getD_some]
  refine ⟨isLiteralOf_quoted, c, hidentity, (hprimary k c hc).mpr rfl, ?_, ?_, ?_, ?_, ?_⟩
  · exact (holds_text true (isConstantName_of_mem (by decide)) t.name).denotes rfl
  · rw [← hname]
    exact (holds_text true (isConstantName_of_mem (by decide)) t.identityName).denotes rfl
  · have hcolumns : IsConstantName "COLUMNS" := isConstantName_of_mem (by decide)
    refine (holds_list true hcolumns (t.columns.map Column.name)).denotes ?_
    rw [List.map_map]
    rfl
  · rw [← hname]
    exact (holds_text false (isConstantName_of_mem (by decide)) (insertSql t o)).denotes rfl
  · exact (holds_text false (isConstantName_of_mem (by decide)) (selectSql t o)).denotes rfl

theorem constants_denote_parcel :
    Table.compile parcelDecls 255 parcel = .ok parcelTable ∧
      (∀ s, IsLiteralOf (quoted s) s) ∧ ∃ identity, parcelTable.identity? = some identity ∧
        identity.primaryKey = true ∧
        (accessorFile parcelTable {}).Denotes "TABLE" ["parcel"] ∧
        (accessorFile parcelTable {}).Denotes "IDENTITY" [identity.name] ∧
        (accessorFile parcelTable {}).Denotes "COLUMNS"
          ["weight", "parcel_no", "inserted_at", "type"] ∧
        (accessorFile parcelTable {}).Denotes "INSERT_SQL"
          [Statement.insertSql .postgres "parcel" ["weight", "inserted_at", "type"]
            identity.name] ∧
        (accessorFile parcelTable {}).Denotes "SELECT_SQL"
          [Statement.selectSql "parcel" [("weight", .plain), ("parcel_no", .plain),
            ("inserted_at", .plain), ("type", .plain)]] := by
  have hcompile : Table.compile parcelDecls 255 parcel = .ok parcelTable := by rfl
  exact ⟨hcompile, constants_denote {} hcompile⟩

end Rowsmith.Code
