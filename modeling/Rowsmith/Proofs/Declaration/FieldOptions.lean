/-
# The options of a field, read twice

Two readers walk the attributes of a field: one keeps both options, the other
keeps the mark of the identity alone and refuses a blank column type. `Lists`
is the grammar that they share, as a relation between tokens and the options
they list, and each reader is characterised by it. That both report the same
mark is then a fact about the grammar. `marksIdentity_agrees_with_ofAttributes` compares
the readers, with the column types read off the tokens apart from either of them.
-/

import Mathlib.Data.List.Defs
import Mathlib.Data.List.TakeWhile
import Rowsmith.Declaration.FieldOptions
import Rowsmith.Entity.Metadata

namespace Rowsmith

open Source Text

/-- An option that an attribute lists. -/
inductive ListedOption where
  | identity
  | columnType (text : String)
  deriving DecidableEq

namespace ListedOption

/-- The column type that an option asks for. -/
def columnType? : ListedOption → Option String
  | identity => none
  | columnType text => some text

/-- The tokens of one attribute list the options in order, with a comma between
each two and perhaps after the last. -/
inductive Lists : List Token → List ListedOption → Prop
  | nil : Lists [] []
  | identity {n : Name} : n.written = "id" → Lists [.name n] [.identity]
  | identityComma {n : Name} {joint : Bool} {rest : List Token} {options : List ListedOption} :
      n.written = "id" → Lists rest options →
      Lists (.name n :: .punct ',' joint :: rest) (.identity :: options)
  | columnType {n : Name} {joint : Bool} {text value : String} :
      n.written = "type" → Literal.string? text = some value →
      Lists [.name n, .punct '=' joint, .literal text] [.columnType value]
  | columnTypeComma {n : Name} {joint joint' : Bool} {text value : String} {rest : List Token}
      {options : List ListedOption} :
      n.written = "type" → Literal.string? text = some value → Lists rest options →
      Lists (.name n :: .punct '=' joint :: .literal text :: .punct ',' joint' :: rest)
        (.columnType value :: options)

/-- The attributes named `dbcrud` list the options, one attribute after the other. -/
inductive ListsAll : List Attribute → List ListedOption → Prop
  | nil : ListsAll [] []
  | other {a : Attribute} {attributes : List Attribute} {options : List ListedOption} :
      a.isNamed "dbcrud" = false → ListsAll attributes options →
      ListsAll (a :: attributes) options
  | named {a : Attribute} {attributes : List Attribute} {tokens : List Token}
      {first options : List ListedOption} :
      a.isNamed "dbcrud" = true → a.body = .arguments tokens → Lists tokens first →
      ListsAll attributes options → ListsAll (a :: attributes) (first ++ options)

/-- Tokens list one row of options at most. -/
theorem Lists.unique {tokens : List Token} {first second : List ListedOption}
    (hfirst : Lists tokens first) (hsecond : Lists tokens second) : first = second := by
  induction hfirst generalizing second with
  | nil => cases hsecond; rfl
  | identity => cases hsecond; rfl
  | identityComma _ _ ih =>
      cases hsecond with
      | identityComma _ hrest => rw [ih hrest]
  | columnType _ htext =>
      cases hsecond with
      | columnType _ htext' => rw [Option.some.inj (htext.symm.trans htext')]
  | columnTypeComma _ htext _ ih =>
      cases hsecond with
      | columnTypeComma _ htext' hrest =>
          rw [Option.some.inj (htext.symm.trans htext'), ih hrest]

theorem listsAll_cons_of_not_named {a : Attribute} {attributes : List Attribute}
    {options : List ListedOption} (h : a.isNamed "dbcrud" = false) :
    ListsAll (a :: attributes) options ↔ ListsAll attributes options := by
  constructor
  · intro hall
    cases hall with
    | other _ hrest => exact hrest
    | named hnamed => simp [h] at hnamed
  · exact .other h

theorem listsAll_cons_of_named {a : Attribute} {attributes : List Attribute}
    {options : List ListedOption} (h : a.isNamed "dbcrud" = true) :
    ListsAll (a :: attributes) options ↔
      ∃ tokens first rest, a.body = .arguments tokens ∧ Lists tokens first ∧
        ListsAll attributes rest ∧ options = first ++ rest := by
  constructor
  · intro hall
    cases hall with
    | other hother => simp [h] at hother
    | named _ hbody hfirst hrest => exact ⟨_, _, _, hbody, hfirst, hrest, rfl⟩
  · rintro ⟨tokens, first, rest, hbody, hfirst, hrest, rfl⟩
    exact .named h hbody hfirst hrest

theorem ListsAll.unique {attributes : List Attribute} {first second : List ListedOption}
    (hfirst : ListsAll attributes first) (hsecond : ListsAll attributes second) :
    first = second := by
  induction hfirst generalizing second with
  | nil => cases hsecond; rfl
  | other hother _ ih => exact ih ((listsAll_cons_of_not_named hother).mp hsecond)
  | named hnamed hbody hhere _ ih =>
      obtain ⟨tokens, here, rest, hbody', hhere', hrest, rfl⟩ :=
        (listsAll_cons_of_named hnamed).mp hsecond
      obtain rfl : tokens = _ := AttributeBody.arguments.inj (hbody'.symm.trans hbody)
      rw [hhere.unique hhere', ih hrest]

/-- No listed column type is blank. -/
def NoBlank (options : List ListedOption) : Prop :=
  ∀ text, columnType text ∈ options → isBlankText text = false

@[simp]
theorem noBlank_nil : NoBlank [] := fun _ h => nomatch h

@[simp]
theorem noBlank_identity_cons {options : List ListedOption} :
    NoBlank (.identity :: options) ↔ NoBlank options := by
  simp [NoBlank]

@[simp]
theorem noBlank_columnType_cons {text : String} {options : List ListedOption} :
    NoBlank (.columnType text :: options) ↔ isBlankText text = false ∧ NoBlank options := by
  simp [NoBlank, or_imp, forall_and]

@[simp]
theorem noBlank_append {first second : List ListedOption} :
    NoBlank (first ++ second) ↔ NoBlank first ∧ NoBlank second := by
  simp [NoBlank, or_imp, forall_and]

end ListedOption

open ListedOption

/-- What listed options come to: any mark counts, and the last column type. -/
def FieldOptions.ofListed (options : List ListedOption) : FieldOptions where
  isIdentity := options.contains .identity
  columnType := (options.filterMap columnType?).getLast?

namespace FieldOptions

theorem merge_ofListed (first later : List ListedOption) :
    (ofListed first).merge (ofListed later) = ofListed (first ++ later) := by
  simp [ofListed, merge, List.getLast?_append]

/-! ## The reader of both options -/

private theorem ofTokens_name (n : Name) (rest : List Token) :
    ofTokens (.name n :: rest) =
      if n.written = "id" then ofTokens.more { isIdentity := true } rest
      else if n.written = "type" then
        match rest with
        | .punct '=' _ :: .literal text :: rest =>
          match Literal.string? text with
          | some value => ofTokens.more { columnType := some value } rest
          | none => .error .malformed
        | _ => .error .malformed
      else .error (.unknownOption n.written) :=
  ofTokens.eq_def (.name n :: rest)

theorem ofTokens_of_lists {tokens : List Token} {options : List ListedOption}
    (h : Lists tokens options) : ofTokens tokens = .ok (ofListed options) := by
  induction h with
  | nil => rfl
  | identity hname =>
      rw [ofTokens_name, if_pos hname]
      rfl
  | identityComma hname _ ih =>
      rw [ofTokens_name, if_pos hname, ofTokens.more, ih]
      exact congrArg Except.ok (merge_ofListed [.identity] _)
  | columnType hname htext =>
      rw [ofTokens_name, if_neg (by simp [hname]), if_pos hname]
      simp only [htext]
      rfl
  | columnTypeComma hname htext _ ih =>
      rw [ofTokens_name, if_neg (by simp [hname]), if_pos hname]
      simp only [htext, ofTokens.more, ih]
      exact congrArg Except.ok (merge_ofListed [.columnType _] _)

private theorem more_eq_ok {options o : FieldOptions} {rest : List Token}
    (h : ofTokens.more options rest = .ok o) :
    rest = [] ∨ ∃ joint later o', rest = .punct ',' joint :: later ∧ ofTokens later = .ok o' := by
  unfold ofTokens.more at h
  split at h
  · exact .inl rfl
  next joint later =>
    cases hlater : ofTokens later with
    | error e => simp [hlater, Except.map] at h
    | ok o' => exact .inr ⟨joint, later, o', rfl, hlater⟩
  · cases h

theorem exists_lists_of_ofTokens (tokens : List Token) {o : FieldOptions}
    (h : ofTokens tokens = .ok o) : ∃ options, Lists tokens options := by
  match tokens with
  | [] => exact ⟨[], .nil⟩
  | .name n :: rest =>
      by_cases hid : n.written = "id"
      · rw [ofTokens_name, if_pos hid] at h
        rcases more_eq_ok h with rfl | ⟨joint, later, o', rfl, hlater⟩
        · exact ⟨_, .identity hid⟩
        · obtain ⟨options, hlists⟩ := exists_lists_of_ofTokens later hlater
          exact ⟨_, .identityComma hid hlists⟩
      · rw [ofTokens_name, if_neg hid] at h
        by_cases htype : n.written = "type"
        · rw [if_pos htype] at h
          split at h
          next joint text rest =>
            cases htext : Literal.string? text with
            | none => simp [htext] at h
            | some value =>
                simp only [htext] at h
                rcases more_eq_ok h with rfl | ⟨joint', later, o', rfl, hlater⟩
                · exact ⟨_, .columnType htype htext⟩
                · obtain ⟨options, hlists⟩ := exists_lists_of_ofTokens later hlater
                  exact ⟨_, .columnTypeComma htype htext hlists⟩
          · cases h
        · rw [if_neg htype] at h
          cases h
  | .punct .. :: _ | .lifetime _ :: _ | .literal _ :: _ | .group .. :: _ =>
      simp [ofTokens] at h
termination_by tokens.length

theorem ofTokens_eq_ok_iff {tokens : List Token} {o : FieldOptions} :
    ofTokens tokens = .ok o ↔ ∃ options, Lists tokens options ∧ o = ofListed options := by
  constructor
  · intro h
    obtain ⟨options, hlists⟩ := exists_lists_of_ofTokens tokens h
    have heq := (ofTokens_of_lists hlists).symm.trans h
    exact ⟨options, hlists, (Except.ok.inj heq).symm⟩
  · rintro ⟨options, hlists, rfl⟩
    exact ofTokens_of_lists hlists

theorem ofAttribute_eq_ok_iff {a : Attribute} {o : FieldOptions} :
    ofAttribute a = .ok o ↔
      ∃ tokens options, a.body = .arguments tokens ∧ Lists tokens options ∧
        o = ofListed options := by
  unfold ofAttribute
  cases a.body with
  | arguments tokens => simp [ofTokens_eq_ok_iff]
  | none => simp
  | value => simp

/-- Attributes are read one by one into what is known from those before them. -/
private theorem foldlM_eq_ok_iff (before : List ListedOption) {attributes : List Attribute}
    {o : FieldOptions} :
    (attributes.filter fun a => a.isNamed "dbcrud").foldlM
        (fun options a => return options.merge (← ofAttribute a)) (ofListed before) =
        (.ok o : Except SourceError FieldOptions) ↔
      ∃ options, ListsAll attributes options ∧ o = ofListed (before ++ options) := by
  induction attributes generalizing before with
  | nil =>
      constructor
      · rintro ⟨rfl⟩
        exact ⟨[], .nil, by simp⟩
      · rintro ⟨_, ⟨⟩, rfl⟩
        simp [pure, Except.pure]
  | cons a attributes ih =>
      by_cases hnamed : a.isNamed "dbcrud" = true
      · simp only [List.filter_cons, hnamed, if_true, List.foldlM_cons,
          listsAll_cons_of_named hnamed]
        cases ha : ofAttribute a with
        | error e =>
            simp only [bind, Except.bind, reduceCtorEq, false_iff]
            rintro ⟨_, ⟨tokens, first, rest, hbody, hfirst, -, -⟩, -⟩
            have hok := ofAttribute_eq_ok_iff.mpr ⟨tokens, first, hbody, hfirst, rfl⟩
            simp [ha] at hok
        | ok here =>
            obtain ⟨tokens, first, hbody, hfirst, rfl⟩ := ofAttribute_eq_ok_iff.mp ha
            simp only [bind, Except.bind, pure, Except.pure, merge_ofListed]
            simp only [bind, Except.bind, pure, Except.pure] at ih
            rw [ih]
            constructor
            · rintro ⟨rest, hrest, rfl⟩
              exact ⟨first ++ rest, ⟨tokens, first, rest, hbody, hfirst, hrest, rfl⟩, by simp⟩
            · rintro ⟨_, ⟨tokens', first', rest, hbody', hfirst', hrest, rfl⟩, rfl⟩
              obtain rfl : tokens' = tokens := by simpa [hbody] using hbody'.symm
              obtain rfl := hfirst.unique hfirst'
              exact ⟨rest, hrest, by simp⟩
      · have hother : a.isNamed "dbcrud" = false := by simpa using hnamed
        simpa only [List.filter_cons, hother, Bool.false_eq_true, if_false,
          listsAll_cons_of_not_named hother] using ih before

theorem ofAttributes_eq_ok_iff {attributes : List Attribute} {o : FieldOptions} :
    ofAttributes attributes = .ok o ↔
      ∃ options, ListsAll attributes options ∧ o = ofListed options :=
  foldlM_eq_ok_iff []

end FieldOptions

/-! ## The reader of the mark -/

namespace Metadata

theorem readOptions_eq_ok_iff {tokens : List Token} {marked b : Bool} :
    readOptions marked tokens = .ok b ↔
      ∃ options, Lists tokens options ∧ NoBlank options ∧
        b = (marked || options.contains .identity) := by
  constructor
  · intro h
    fun_induction readOptions marked tokens with
    | case1 marked => exact ⟨[], .nil, by simp, by simpa using h.symm⟩
    | case2 marked n hname => exact ⟨_, .identity hname, by simp, by simpa using h.symm⟩
    | case3 marked n joint rest hname ih =>
        obtain ⟨options, hlists, hblank, rfl⟩ := ih h
        exact ⟨_, .identityComma hname hlists, by simpa using hblank, by simp⟩
    | case6 marked n joint text hname value htext hvalue =>
        exact ⟨_, .columnType hname htext, by simpa using hvalue, by simpa using h.symm⟩
    | case7 marked n joint text hname value htext hvalue joint' rest ih =>
        obtain ⟨options, hlists, hblank, rfl⟩ := ih h
        exact ⟨_, .columnTypeComma hname htext hlists, by simpa [hblank] using hvalue, by simp⟩
    | _ => cases h
  · rintro ⟨options, hlists, hblank, rfl⟩
    induction hlists generalizing marked with
    | nil => simp [readOptions]
    | identity hname => simp [readOptions, hname]
    | identityComma hname _ ih =>
        rw [noBlank_identity_cons] at hblank
        simp [readOptions, hname, ih hblank]
    | columnType hname htext =>
        rw [noBlank_columnType_cons] at hblank
        simp [readOptions, hname, htext, hblank.1]
    | columnTypeComma hname htext _ ih =>
        rw [noBlank_columnType_cons] at hblank
        simp [readOptions, hname, htext, hblank.1, ih hblank.2]

theorem marksIdentity_eq_ok_iff {attributes : List Attribute} {marked b : Bool} :
    marksIdentity marked attributes = .ok b ↔
      ∃ options, ListsAll attributes options ∧ NoBlank options ∧
        b = (marked || options.contains .identity) := by
  induction attributes generalizing marked with
  | nil =>
      constructor
      · rintro ⟨rfl⟩
        exact ⟨[], .nil, by simp, by simp⟩
      · rintro ⟨_, ⟨⟩, -, rfl⟩
        simp [marksIdentity]
  | cons a attributes ih =>
      by_cases hnamed : a.isNamed "dbcrud" = true
      · rw [marksIdentity, if_pos hnamed]
        simp only [listsAll_cons_of_named hnamed]
        cases hbody : a.body with
        | none => simp
        | value => simp
        | arguments tokens =>
            cases hread : readOptions false tokens with
            | error e =>
                simp only [hread, bind, Except.bind, reduceCtorEq, false_iff]
                rintro ⟨_, ⟨_, first, rest, ⟨rfl⟩, hfirst, -, rfl⟩, hblank, -⟩
                rw [noBlank_append] at hblank
                have hok : readOptions false tokens = .ok (first.contains .identity) :=
                  readOptions_eq_ok_iff.mpr ⟨first, hfirst, hblank.1, by simp⟩
                rw [hread] at hok
                cases hok
            | ok here =>
                obtain ⟨first, hfirst, hblank, rfl⟩ := readOptions_eq_ok_iff.mp hread
                simp only [hread, bind, Except.bind, ih]
                constructor
                · rintro ⟨rest, hrest, hblank', rfl⟩
                  exact ⟨first ++ rest, ⟨tokens, first, rest, rfl, hfirst, hrest, rfl⟩,
                    noBlank_append.mpr ⟨hblank, hblank'⟩, by simp [Bool.or_assoc]⟩
                · rintro ⟨_, ⟨_, first', rest, ⟨rfl⟩, hfirst', hrest, rfl⟩, hblank', rfl⟩
                  obtain rfl := hfirst.unique hfirst'
                  exact ⟨rest, hrest, (noBlank_append.mp hblank').2, by simp [Bool.or_assoc]⟩
      · have hother : a.isNamed "dbcrud" = false := by simpa using hnamed
        rw [marksIdentity, if_neg hnamed]
        simpa only [listsAll_cons_of_not_named hother] using ih

/-- Where both readers accept the attributes of a field, they report the same
mark. -/
theorem isIdentity_eq_of_marksIdentity {attributes : List Attribute} {b : Bool}
    {o : FieldOptions} (hmark : marksIdentity false attributes = .ok b)
    (hoptions : FieldOptions.ofAttributes attributes = .ok o) : o.isIdentity = b := by
  obtain ⟨options, hlists, -, rfl⟩ := marksIdentity_eq_ok_iff.mp hmark
  obtain ⟨options', hlists', rfl⟩ := FieldOptions.ofAttributes_eq_ok_iff.mp hoptions
  obtain rfl := hlists.unique hlists'
  simp [FieldOptions.ofListed]

end Metadata

/-! ## The two readers compared -/

theorem Text.trimmed_eq_empty_iff {s : String} : trimmed s = "" ↔ isBlankText s = true := by
  rw [trimmed, String.ofList_eq_empty_iff, trim, trimEnd, List.reverse_eq_nil_iff,
    List.dropWhile_eq_nil_iff, isBlankText, List.all_eq_true]
  constructor
  · intro h c hc
    rw [← List.takeWhile_append_dropWhile (p := isBlank) (l := s.toList), List.mem_append] at hc
    rcases hc with hc | hc
    · exact List.mem_takeWhile_imp hc
    · exact h c (List.mem_reverse.mpr hc)
  · intro h c hc
    apply h
    exact (List.dropWhile_sublist _).mem (List.mem_reverse.mp hc)

/-- The column type that is asked for right where the tokens start. -/
def columnTypeAt? : List Token → Option String
  | .name n :: .punct '=' _ :: .literal text :: _ =>
    if n.written = "type" then Literal.string? text else none
  | _ => none

/-- The column types that are asked for anywhere among the tokens, in order. -/
def columnTypesIn (tokens : List Token) : List String :=
  tokens.tails.filterMap columnTypeAt?

theorem columnTypesIn_cons (t : Token) (ts : List Token) :
    columnTypesIn (t :: ts) = (columnTypeAt? (t :: ts)).toList ++ columnTypesIn ts := by
  rw [columnTypesIn, List.tails, List.filterMap_cons]
  cases columnTypeAt? (t :: ts) <;> rfl

theorem columnTypeAt?_option {n : Name} {joint : Bool} {text value : String} {rest : List Token}
    (hname : n.written = "type") (htext : Literal.string? text = some value) :
    columnTypeAt? (.name n :: .punct '=' joint :: .literal text :: rest) = some value := by
  rw [columnTypeAt?, if_pos hname, htext]

/-- The column types that attributes named `dbcrud` ask for, in the order of the text. -/
def columnTypesOf (attributes : List Attribute) : List String :=
  (attributes.filter fun a => a.isNamed "dbcrud").flatMap fun a =>
    match a.body with
    | .arguments tokens => columnTypesIn tokens
    | _ => []

namespace ListedOption

/-- In tokens that list options a column type stands only where it is listed. -/
theorem Lists.columnTypesIn_eq {tokens : List Token} {options : List ListedOption}
    (h : Lists tokens options) : columnTypesIn tokens = options.filterMap columnType? := by
  induction h with
  | nil => rfl
  | identity => rfl
  | identityComma _ _ ih =>
      rw [columnTypesIn_cons, columnTypesIn_cons, ih]
      rfl
  | columnType hname htext =>
      rw [columnTypesIn_cons, columnTypeAt?_option hname htext]
      rfl
  | columnTypeComma hname htext _ ih =>
      -- nothing is asked for at the three tokens behind the name
      rw [columnTypesIn_cons, columnTypeAt?_option hname htext, columnTypesIn_cons,
        columnTypesIn_cons, columnTypesIn_cons, ih]
      rfl

theorem ListsAll.columnTypesOf_eq {attributes : List Attribute} {options : List ListedOption}
    (h : ListsAll attributes options) :
    columnTypesOf attributes = options.filterMap columnType? := by
  induction h with
  | nil => rfl
  | @other a _ _ hother _ ih =>
      rw [columnTypesOf, List.filter_cons_of_neg (by simp [hother]), ← columnTypesOf, ih]
  | @named a _ _ _ _ hnamed hbody hfirst _ ih =>
      rw [columnTypesOf, List.filter_cons_of_pos (by simp [hnamed]), List.flatMap_cons,
        ← columnTypesOf, hbody, ih, List.filterMap_append, ← hfirst.columnTypesIn_eq]

theorem ListsAll.noBlank_iff {attributes : List Attribute} {options : List ListedOption}
    (h : ListsAll attributes options) :
    NoBlank options ↔ ∀ text ∈ columnTypesOf attributes, trimmed text ≠ "" := by
  have hmem (text : String) : columnType text ∈ options ↔ text ∈ options.filterMap columnType? := by
    rw [List.mem_filterMap]
    constructor
    · intro htext
      exact ⟨_, htext, rfl⟩
    · rintro ⟨_ | value, hvalue, ⟨⟩⟩
      exact hvalue
  rw [h.columnTypesOf_eq, NoBlank]
  apply forall_congr'
  intro text
  rw [hmem, Ne, trimmed_eq_empty_iff, Bool.not_eq_true]

end ListedOption

namespace Metadata

/-- The two readers accept the same attributes, but for a blank column type, which only the
reader of the mark refuses. Of attributes that both accept they find the same mark, and the
column type is the one that the text asks for last. -/
theorem marksIdentity_agrees_with_ofAttributes (attributes : List Attribute) :
    ((∃ b, marksIdentity false attributes = .ok b) ↔
      (∃ o, FieldOptions.ofAttributes attributes = .ok o) ∧
        ∀ text ∈ columnTypesOf attributes, trimmed text ≠ "") ∧
    ∀ b o, marksIdentity false attributes = .ok b →
      FieldOptions.ofAttributes attributes = .ok o →
      o.isIdentity = b ∧ o.columnType = (columnTypesOf attributes).getLast? := by
  constructor
  · constructor
    · rintro ⟨b, hmark⟩
      obtain ⟨options, hlists, hblank, -⟩ := marksIdentity_eq_ok_iff.mp hmark
      have hoptions := FieldOptions.ofAttributes_eq_ok_iff.mpr ⟨options, hlists, rfl⟩
      exact ⟨⟨_, hoptions⟩, hlists.noBlank_iff.mp hblank⟩
    · rintro ⟨⟨o, hoptions⟩, htexts⟩
      obtain ⟨options, hlists, -⟩ := FieldOptions.ofAttributes_eq_ok_iff.mp hoptions
      have hblank := hlists.noBlank_iff.mpr htexts
      exact ⟨_, marksIdentity_eq_ok_iff.mpr ⟨options, hlists, hblank, rfl⟩⟩
  · intro b o hmark hoptions
    refine ⟨isIdentity_eq_of_marksIdentity hmark hoptions, ?_⟩
    obtain ⟨options, hlists, rfl⟩ := FieldOptions.ofAttributes_eq_ok_iff.mp hoptions
    rw [hlists.columnTypesOf_eq]
    rfl

/-- A struct whose field asks for two column types and is marked, in two lists with an attribute of
another kind between them. -/
def overriddenSource : String :=
  "struct S \x7b
    #[dbcrud(type = \"TEXT\", id,)] #[serde(skip)] #[dbcrud(type = \"CHAR(3)\")] key: K
  \x7d"

/-- The attributes of the field. -/
def overriddenAttributes : List Attribute :=
  match parseDefinition? overriddenSource with
  | some ⟨_, _, _, _, .struct (.named [f])⟩ => f.attributes
  | _ => []

theorem marksIdentity_agrees_with_ofAttributes_overridden :
    (marksIdentity false overriddenAttributes = .ok true ∧
      FieldOptions.ofAttributes overriddenAttributes = .ok ⟨true, some "CHAR(3)"⟩ ∧
      columnTypesOf overriddenAttributes = ["TEXT", "CHAR(3)"]) ∧
    (∀ text ∈ columnTypesOf overriddenAttributes, trimmed text ≠ "") ∧
    (some "CHAR(3)" : Option String) = (columnTypesOf overriddenAttributes).getLast? := by
  -- the text is parsed once for all three
  obtain ⟨hmark, hoptions, htexts⟩ : marksIdentity false overriddenAttributes = .ok true ∧
      FieldOptions.ofAttributes overriddenAttributes = .ok ⟨true, some "CHAR(3)"⟩ ∧
      columnTypesOf overriddenAttributes = ["TEXT", "CHAR(3)"] := by
    decide +kernel
  obtain ⟨haccept, hagree⟩ := marksIdentity_agrees_with_ofAttributes overriddenAttributes
  exact ⟨⟨hmark, hoptions, htexts⟩, (haccept.mp ⟨true, hmark⟩).2,
    (hagree true _ hmark hoptions).2⟩

end Metadata

end Rowsmith
