/-
# What a compiled table consists of

`compile_eq_ok_iff` says everything that a successful compilation fixes: which
field is the identity, and for each position the column that the field there
becomes. Later results use the relation `IsTableOf` and never open the
compiler. Its first consequences are here: the one primary key stands at the
position of the identity, and the columns of an insertion are all the others.
-/

import Rowsmith.Proofs.Text.SnakeCase
import Rowsmith.Proofs.Traversal
import Rowsmith.Table.Compile

namespace Rowsmith

open Text

namespace Table

/-- Position `k` is that of the identity: of the one field that is marked, or
without a marked field of the first whose column is called `id`. -/
def IsIdentity (fields : List FieldDecl) (k : Nat) : Prop :=
  ∃ f, fields[k]? = some f ∧
    ((f.isIdentity = true ∧
        ∀ i g, fields[i]? = some g → g.isIdentity = true → i = k) ∨
      ((∀ g ∈ fields, g.isIdentity = false) ∧ snakeCase f.name = defaultIdentity ∧
        ∀ i g, i < k → fields[i]? = some g → snakeCase g.name ≠ defaultIdentity))

/-- The names of the columns that fields become. -/
def columnNames (fields : List FieldDecl) : List String :=
  fields.map fun f => snakeCase f.name

/-- The column `c` that the field `f` becomes. -/
structure IsColumnOf (decls : DeclSet) (textBound : Nat) (isIdentity : Bool) (f : FieldDecl)
    (c : Column) : Prop where
  name : c.name = snakeCase f.name
  field : c.field = f.name
  resolved : Resolved.ofType decls f.type = .ok ⟨c.kind, c.via⟩
  type : ColumnType.ofKind textBound c.kind f.columnType = .ok c.type
  integer : isIdentity = true → c.kind.isInteger = true
  primaryKey : c.primaryKey = isIdentity
  autoIncrement : c.autoIncrement = isIdentity

/-- The table `t` of an entity with `fields`, of which that at position `k` is
the identity. -/
structure IsTableOf (decls : DeclSet) (textBound : Nat) (entity : Decl)
    (fields : List FieldDecl) (k : Nat) (t : Table) : Prop where
  identity : IsIdentity fields k
  path : t.entity = entity.path
  name : t.name = snakeCase entity.name
  length : t.columns.length = fields.length
  column : ∀ i f c, fields[i]? = some f → t.columns[i]? = some c →
    IsColumnOf decls textBound (i = k) f c

/-! ## The identity -/

/-- Members that a filter leaves stand at positions of their own. -/
private theorem exists_positions_of_filter {α : Type} {p : α → Bool} {xs rest : List α} {a b : α}
    (h : xs.filter p = a :: b :: rest) :
    ∃ i j : Nat, i ≠ j ∧ xs[i]? = some a ∧ xs[j]? = some b := by
  induction xs with
  | nil => simp at h
  | cons x xs ih =>
      by_cases hx : p x = true
      · rw [List.filter_cons_of_pos hx, List.cons.injEq] at h
        have hb : b ∈ xs := List.mem_of_mem_filter (h.2 ▸ List.mem_cons_self)
        obtain ⟨j, hj⟩ := List.mem_iff_getElem?.mp hb
        exact ⟨0, j + 1, by omega, by simp [h.1], by simpa using hj⟩
      · rw [List.filter_cons_of_neg hx] at h
        obtain ⟨i, j, hne, hi, hj⟩ := ih h
        exact ⟨i + 1, j + 1, by omega, by simpa using hi, by simpa using hj⟩

/-- The one member that a filter leaves stands where the first hit is. -/
private theorem eq_findIdx_of_filter {α : Type} {p : α → Bool} {xs : List α} {a x : α} {i : Nat}
    (h : xs.filter p = [a]) (hi : xs[i]? = some x) (hx : p x = true) :
    x = a ∧ i = xs.findIdx p := by
  induction xs generalizing i with
  | nil => simp at h
  | cons y xs ih =>
      by_cases hy : p y = true
      · rw [List.filter_cons_of_pos hy, List.cons.injEq] at h
        cases i with
        | zero =>
            obtain rfl : y = x := by simpa using hi
            exact ⟨h.1, by simp [List.findIdx_cons, hy]⟩
        | succ i =>
            have hmem : x ∈ xs := List.mem_of_getElem? (by simpa using hi)
            exact absurd hx (List.filter_eq_nil_iff.mp h.2 x hmem)
      · rw [List.filter_cons_of_neg hy] at h
        cases i with
        | zero =>
            obtain rfl : y = x := by simpa using hi
            exact absurd hx hy
        | succ i =>
            obtain ⟨rfl, rfl⟩ := ih h (by simpa using hi)
            exact ⟨rfl, by simp [List.findIdx_cons, hy]⟩

section

variable {fields : List FieldDecl} {k : Nat}

/-- Of two marked fields neither is the identity. -/
theorem not_isIdentity_of_two {first second : FieldDecl} {rest : List FieldDecl}
    (h : fields.filter FieldDecl.isIdentity = first :: second :: rest) :
    ¬ IsIdentity fields k := by
  obtain ⟨i, j, hne, hi, hj⟩ := exists_positions_of_filter h
  have hfirst : first.isIdentity = true := List.of_mem_filter (h ▸ List.mem_cons_self)
  have hsecond : second.isIdentity = true :=
    List.of_mem_filter (h ▸ List.mem_cons_of_mem _ List.mem_cons_self)
  rintro ⟨f, -, ⟨-, hunique⟩ | ⟨hnone, -⟩⟩
  · exact hne ((hunique i first hi hfirst).trans (hunique j second hj hsecond).symm)
  · simp [hnone first (List.mem_of_getElem? hi)] at hfirst

/-- The identity is the one field that is marked. -/
theorem isIdentity_iff_of_one {marked : FieldDecl}
    (h : fields.filter FieldDecl.isIdentity = [marked]) :
    IsIdentity fields k ↔ fields.findIdx FieldDecl.isIdentity = k := by
  have hmem : marked ∈ fields.filter FieldDecl.isIdentity := h ▸ List.mem_cons_self
  have hidentity : marked.isIdentity = true := List.of_mem_filter hmem
  obtain ⟨i, hi⟩ := List.mem_iff_getElem?.mp (List.mem_of_mem_filter hmem)
  obtain rfl := (eq_findIdx_of_filter h hi hidentity).2
  constructor
  · rintro ⟨f, hf, ⟨-, hunique⟩ | ⟨hnone, -⟩⟩
    · exact hunique _ marked hi hidentity
    · simp [hnone marked (List.mem_of_getElem? hi)] at hidentity
  · rintro rfl
    exact ⟨marked, hi, .inl ⟨hidentity, fun i g hg hgm => (eq_findIdx_of_filter h hg hgm).2⟩⟩

/-- Without a marked field the identity is the first field whose column is called `id`. -/
theorem isIdentity_iff_of_unmarked (h : ∀ f ∈ fields, f.isIdentity = false) :
    IsIdentity fields k ↔
      fields.findIdx? (fun f => snakeCase f.name = defaultIdentity) = some k := by
  rw [List.findIdx?_eq_some_iff_getElem]
  constructor
  · rintro ⟨f, hf, ⟨hmark, -⟩ | ⟨-, hname, hbefore⟩⟩
    · simp [h f (List.mem_of_getElem? hf)] at hmark
    · obtain ⟨hk, rfl⟩ := List.getElem?_eq_some_iff.mp hf
      refine ⟨hk, decide_eq_true hname, fun j hj => ?_⟩
      simpa using hbefore j _ hj (List.getElem?_eq_getElem (Nat.lt_trans hj hk))
  · rintro ⟨hk, hname, hbefore⟩
    refine ⟨fields[k], List.getElem?_eq_getElem hk,
      .inr ⟨h, of_decide_eq_true hname, fun j g hj hg => ?_⟩⟩
    obtain ⟨hlt, rfl⟩ := List.getElem?_eq_some_iff.mp hg
    simpa using hbefore j hj

theorem identityIndex_eq_ok_iff {entity : String} :
    identityIndex entity fields = .ok k ↔ IsIdentity fields k := by
  unfold identityIndex
  split
  next first second rest hmarked => exact iff_of_false nofun (not_isIdentity_of_two hmarked)
  next marked hmarked => rw [isIdentity_iff_of_one hmarked, Except.ok.injEq]
  next hmarked =>
    have hnone : ∀ f ∈ fields, f.isIdentity = false := by
      simpa [List.filter_eq_nil_iff] using hmarked
    rw [isIdentity_iff_of_unmarked hnone]
    cases fields.findIdx? fun f => snakeCase f.name = defaultIdentity with
    | none => exact iff_of_false nofun nofun
    | some i => rw [Except.ok.injEq, Option.some.injEq]

end

/-! ## Columns -/

theorem column_eq_ok_iff {decls : DeclSet} {textBound : Nat} {entity : String}
    {isIdentity : Bool} {f : FieldDecl} {c : Column} :
    column decls textBound entity isIdentity f = .ok c ↔
      IsColumnOf decls textBound isIdentity f c := by
  constructor
  · intro h
    unfold column at h
    cases hresolved : Resolved.ofType decls f.type with
    | error e => simp [hresolved, Except.mapError, bind, Except.bind] at h
    | ok resolved =>
        cases htype : ColumnType.ofKind textBound resolved.kind f.columnType with
        | error e => simp [hresolved, htype, Except.mapError, bind, Except.bind] at h
        | ok type =>
            simp only [hresolved, htype, Except.mapError, bind, Except.bind] at h
            split at h
            · cases h
            next hinteger =>
              cases h
              refine ⟨rfl, rfl, hresolved, htype, fun hidentity => ?_, rfl, rfl⟩
              simpa [hidentity] using hinteger
  · intro h
    obtain ⟨name, field, type, kind, via, primaryKey, autoIncrement⟩ := c
    obtain ⟨hname, hfield, hresolved, htype, hinteger, hprimary, hauto⟩ := h
    dsimp only at hname hfield hresolved htype hinteger hprimary hauto
    subst hname hfield hprimary hauto
    have hchecked : (autoIncrement && !kind.isInteger) = false := by
      cases autoIncrement with
      | false => rfl
      | true => simpa using hinteger rfl
    unfold column
    simp only [hresolved, htype, hchecked, Except.mapError, bind, Except.bind]
    rfl

theorem columnsOf_eq_ok_iff {decls : DeclSet} {textBound k : Nat} {entity : String}
    {fields : List FieldDecl} {columns : List Column} :
    columnsOf decls textBound entity k fields = .ok columns ↔
      columns.length = fields.length ∧ ∀ i f c, fields[i]? = some f → columns[i]? = some c →
        IsColumnOf decls textBound (i = k) f c := by
  simp only [columnsOf, mapM_zipIdx_eq_ok_iff, column_eq_ok_iff]

/-- Compilation succeeds exactly for structs whose fields have an identity and
all become columns, and what it builds is determined by them. -/
theorem compile_eq_ok_iff {decls : DeclSet} {textBound : Nat} {entity : Decl} {t : Table} :
    compile decls textBound entity = .ok t ↔
      ∃ fields marked k, entity.kind = .struct fields marked ∧
        IsTableOf decls textBound entity fields k t := by
  unfold compile
  cases hkind : entity.kind with
  | struct fields marked =>
      constructor
      · intro h
        cases hindex : identityIndex entity.name fields with
        | error e => simp [hindex, bind, Except.bind] at h
        | ok k =>
            cases hcolumns : columnsOf decls textBound entity.name k fields with
            | error e => simp [hindex, hcolumns, bind, Except.bind] at h
            | ok columns =>
                simp only [hindex, hcolumns, bind, Except.bind, pure, Except.pure,
                  Except.ok.injEq] at h
                subst h
                obtain ⟨hlength, hcolumn⟩ := columnsOf_eq_ok_iff.mp hcolumns
                exact ⟨fields, marked, k, rfl, identityIndex_eq_ok_iff.mp hindex, rfl, rfl,
                  hlength, hcolumn⟩
      · rintro ⟨fields', marked', k, ⟨⟩, h⟩
        obtain ⟨path, name, columns⟩ := t
        obtain ⟨hidentity, rfl, rfl, hlength, hcolumn⟩ := h
        have hindex : identityIndex entity.name fields = .ok k :=
          identityIndex_eq_ok_iff.mpr hidentity
        have hcolumns : columnsOf decls textBound entity.name k fields = .ok columns :=
          columnsOf_eq_ok_iff.mpr ⟨hlength, hcolumn⟩
        simp only [hindex, hcolumns, bind, Except.bind]
        rfl
  | newtype inner => simp
  | synonym target => simp
  | other => simp

/-! ## The one primary key -/

/-- A filter that refuses the member at one position, and no other, erases it. -/
private theorem filter_eq_eraseIdx {α : Type} {p : α → Bool} {xs : List α} {k : Nat}
    (h : ∀ i x, xs[i]? = some x → (p x = false ↔ i = k)) : xs.filter p = xs.eraseIdx k := by
  induction xs generalizing k with
  | nil => simp
  | cons x xs ih =>
      have hx := h 0 x rfl
      cases k with
      | zero =>
          have hrest : ∀ y ∈ xs, p y = true := by
            intro y hy
            obtain ⟨i, hi⟩ := List.mem_iff_getElem?.mp hy
            simpa using h (i + 1) y (by simpa using hi)
          rw [List.filter_cons_of_neg (by simp [hx.mpr rfl]), List.eraseIdx_zero, List.tail_cons,
            List.filter_eq_self.mpr hrest]
      | succ k =>
          have hkept : p x = true := by simpa using hx
          rw [List.filter_cons_of_pos hkept, List.eraseIdx_cons_succ,
            ih fun i y hi => by simpa using h (i + 1) y (by simpa using hi)]

namespace IsTableOf

variable {decls : DeclSet} {textBound k : Nat} {entity : Decl} {fields : List FieldDecl}
  {t : Table}

/-- Every column is made from the field at its position. -/
theorem exists_field (h : IsTableOf decls textBound entity fields k t) {i : Nat} {c : Column}
    (hc : t.columns[i]? = some c) :
    ∃ f, fields[i]? = some f ∧ IsColumnOf decls textBound (i = k) f c := by
  obtain ⟨hi, -⟩ := List.getElem?_eq_some_iff.mp hc
  have hf := List.getElem?_eq_getElem (h.length ▸ hi)
  exact ⟨_, hf, h.column i _ c hf hc⟩

/-- The identity is a column, made from the field at its position. -/
theorem exists_identity (h : IsTableOf decls textBound entity fields k t) :
    ∃ f c, fields[k]? = some f ∧ t.columns[k]? = some c ∧
      IsColumnOf decls textBound true f c := by
  obtain ⟨f, hf, -⟩ := h.identity
  obtain ⟨hk, -⟩ := List.getElem?_eq_some_iff.mp hf
  have hc := List.getElem?_eq_getElem (h.length.symm ▸ hk)
  exact ⟨f, _, hf, hc, by simpa using h.column k f _ hf hc⟩

theorem primaryKey_iff (h : IsTableOf decls textBound entity fields k t) {i : Nat} {c : Column}
    (hc : t.columns[i]? = some c) : c.primaryKey = true ↔ i = k := by
  obtain ⟨f, -, hcolumn⟩ := h.exists_field hc
  simp [hcolumn.primaryKey]

theorem identity?_eq (h : IsTableOf decls textBound entity fields k t) :
    t.identity? = t.columns[k]? := by
  obtain ⟨f, c, -, hc, hcolumn⟩ := h.exists_identity
  obtain ⟨hk, rfl⟩ := List.getElem?_eq_some_iff.mp hc
  have hfind : t.columns.find? Column.primaryKey = some t.columns[k] := by
    refine List.find?_eq_some_iff_getElem.mpr ⟨hcolumn.primaryKey, k, hk, rfl, fun j hj => ?_⟩
    have hother := h.primaryKey_iff (List.getElem?_eq_getElem (Nat.lt_trans hj hk))
    simpa using mt hother.mp (by omega)
  rw [identity?, hfind, hc, Option.some_or]

/-- The columns of an insertion are all but the one at the position of the
identity, in order. -/
theorem insertColumns_eq (h : IsTableOf decls textBound entity fields k t) :
    t.insertColumns = t.columns.eraseIdx k :=
  filter_eq_eraseIdx fun i c hc => by simpa using h.primaryKey_iff hc

theorem map_name_columns (h : IsTableOf decls textBound entity fields k t) :
    t.columns.map Column.name = columnNames fields := by
  refine List.ext_getElem (by simp [columnNames, h.length]) fun i hi hi' => ?_
  simp only [columnNames, List.length_map] at hi hi'
  have hcolumn := h.column i _ _ (List.getElem?_eq_getElem hi') (List.getElem?_eq_getElem hi)
  simpa [columnNames] using hcolumn.name

theorem identityName_eq (h : IsTableOf decls textBound entity fields k t) {f : FieldDecl}
    (hf : fields[k]? = some f) : t.identityName = snakeCase f.name := by
  obtain ⟨f', c, hf', hc, hcolumn⟩ := h.exists_identity
  obtain rfl : f' = f := Option.some.inj (hf'.symm.trans hf)
  simp [identityName, h.identity?_eq, hc, hcolumn.name]

/-! ## Names -/

theorem isName_name (h : IsTableOf decls textBound entity fields k t) : IsName t.name :=
  h.name ▸ isName_snakeCase entity.name

theorem isName_column (h : IsTableOf decls textBound entity fields k t) {c : Column}
    (hc : c ∈ t.columns) : IsName c.name := by
  obtain ⟨i, hi⟩ := List.mem_iff_getElem?.mp hc
  obtain ⟨f, -, hcolumn⟩ := h.exists_field hi
  exact hcolumn.name ▸ isName_snakeCase f.name

theorem isName_identityName (h : IsTableOf decls textBound entity fields k t) :
    IsName t.identityName := by
  obtain ⟨f, -, hf, -⟩ := h.exists_identity
  exact h.identityName_eq hf ▸ isName_snakeCase f.name

theorem columns_ne_nil (h : IsTableOf decls textBound entity fields k t) : t.columns ≠ [] := by
  obtain ⟨f, c, -, hc, -⟩ := h.exists_identity
  exact List.ne_nil_of_mem (List.mem_of_getElem? hc)

end IsTableOf

end Table

end Rowsmith
