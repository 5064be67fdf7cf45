/-
# Which entities compile, and what is wrong with the others

Compilation is exact: it succeeds for the entities that `IsCompilable` describes
and fails for all others with the first fault that there is. The faults of one
field are listed in the order in which they are looked for, each with what has to
hold for it, and `column_eq_error_iff` says that there are no others. The faults
of an entity are built from these: the identity is looked for in the whole list
of fields before any type is, and then the first field with a fault decides.
-/

import Rowsmith.Proofs.Declaration.Set
import Rowsmith.Proofs.Table.Compile

namespace Rowsmith

open Text

/-! ## Types -/

/-- The declaration at `path` is another name for a type, or a struct around one
value. -/
inductive StandsFor (decls : DeclSet) (path : TypePath) : TypeRef → Via → Prop where
  | synonym {target : TypeRef} (h : decls.get? path = some ⟨path, .synonym target⟩) :
      StandsFor decls path target (.synonym path)
  | newtype {inner : TypeRef} (h : decls.get? path = some ⟨path, .newtype inner⟩) :
      StandsFor decls path inner (.newtype path)

/-- What a type comes down to: it is a primitive, or it names a declaration that
stands for one. -/
inductive Resolves (decls : DeclSet) : TypeRef → Primitive → Via → Prop where
  | direct {kind : Primitive} : Resolves decls (.primitive kind) kind .direct
  | through {path : TypePath} {kind : Primitive} {via : Via}
      (h : StandsFor decls path (.primitive kind) via) : Resolves decls (.named path) kind via

/-- Why a type comes down to nothing. The declaration that stands for another
name may stand for its own. -/
inductive Unresolvable (decls : DeclSet) : TypeRef → ResolveError → Prop where
  | undeclared {path : TypePath} (h : decls.get? path = none) :
      Unresolvable decls (.named path) (.unresolved path)
  | secondHop {path target : TypePath} {via : Via}
      (h : StandsFor decls path (.named target) via) :
      Unresolvable decls (.named path) (.chain path target)
  | unsupported {text : String} : Unresolvable decls (.unsupported text) (.unmappable text)
  | behind {path : TypePath} {via : Via} {text : String}
      (h : StandsFor decls path (.unsupported text) via) :
      Unresolvable decls (.named path) (.unmappable text)
  | struct {path : TypePath} {fields : List FieldDecl} {marked : Bool}
      (h : decls.get? path = some ⟨path, .struct fields marked⟩) :
      Unresolvable decls (.named path) (.unmappable path.display)
  | other {path : TypePath} (h : decls.get? path = some ⟨path, .other⟩) :
      Unresolvable decls (.named path) (.unmappable path.display)

variable {decls : DeclSet} {ref : TypeRef}

private theorem StandsFor.ofType_eq {path : TypePath} {inner : TypeRef} {via : Via}
    (h : StandsFor decls path inner via) :
    Resolved.ofType decls (.named path) = Resolved.ofInner path via inner := by
  cases h with
  | synonym h => simp only [Resolved.ofType, h]
  | newtype h => simp only [Resolved.ofType, h]

theorem Resolves.ofType_eq {kind : Primitive} {via : Via} (h : Resolves decls ref kind via) :
    Resolved.ofType decls ref = .ok ⟨kind, via⟩ := by
  cases h with
  | direct => rfl
  | through h => exact h.ofType_eq

theorem Unresolvable.ofType_eq {e : ResolveError} (h : Unresolvable decls ref e) :
    Resolved.ofType decls ref = .error e := by
  cases h with
  | undeclared h => simp only [Resolved.ofType, h]
  | secondHop h => exact h.ofType_eq
  | unsupported => rfl
  | behind h => exact h.ofType_eq
  | struct h => simp only [Resolved.ofType, h]
  | other h => simp only [Resolved.ofType, h]

private theorem StandsFor.resolves_or_unresolvable {path : TypePath} {inner : TypeRef} {via : Via}
    (h : StandsFor decls path inner via) :
    (∃ kind via, Resolves decls (.named path) kind via) ∨
      ∃ e, Unresolvable decls (.named path) e := by
  cases inner with
  | primitive kind => exact .inl ⟨kind, via, .through h⟩
  | named target => exact .inr ⟨_, .secondHop h⟩
  | unsupported text => exact .inr ⟨_, .behind h⟩

/-- Nothing is left out: a type comes down to something, or there is a reason why
it does not. -/
theorem resolves_or_unresolvable (decls : DeclSet) (ref : TypeRef) :
    (∃ kind via, Resolves decls ref kind via) ∨ ∃ e, Unresolvable decls ref e := by
  cases ref with
  | primitive kind => exact .inl ⟨kind, .direct, .direct⟩
  | unsupported text => exact .inr ⟨_, .unsupported⟩
  | named path =>
      cases hd : decls.get? path with
      | none => exact .inr ⟨_, .undeclared hd⟩
      | some d =>
          obtain ⟨path', kind⟩ := d
          obtain rfl : path' = path := DeclSet.path_of_get?_eq_some hd
          cases kind with
          | synonym target => exact (StandsFor.synonym hd).resolves_or_unresolvable
          | newtype inner => exact (StandsFor.newtype hd).resolves_or_unresolvable
          | struct fields marked => exact .inr ⟨_, .struct hd⟩
          | other => exact .inr ⟨_, .other hd⟩

theorem ofType_eq_ok_iff {kind : Primitive} {via : Via} :
    Resolved.ofType decls ref = .ok ⟨kind, via⟩ ↔ Resolves decls ref kind via := by
  constructor
  · intro h
    rcases resolves_or_unresolvable decls ref with ⟨kind', via', hresolves⟩ | ⟨e, hfault⟩
    · obtain ⟨rfl, rfl⟩ : kind' = kind ∧ via' = via := by
        simpa using hresolves.ofType_eq.symm.trans h
      exact hresolves
    · cases hfault.ofType_eq.symm.trans h
  · exact Resolves.ofType_eq

theorem ofType_eq_error_iff {e : ResolveError} :
    Resolved.ofType decls ref = .error e ↔ Unresolvable decls ref e := by
  constructor
  · intro h
    rcases resolves_or_unresolvable decls ref with ⟨kind, via, hresolves⟩ | ⟨e', hfault⟩
    · cases hresolves.ofType_eq.symm.trans h
    · obtain rfl : e' = e := by simpa using hfault.ofType_eq.symm.trans h
      exact hfault
  · exact Unresolvable.ofType_eq

theorem Resolves.unique {kind kind' : Primitive} {via via' : Via}
    (h : Resolves decls ref kind via) (h' : Resolves decls ref kind' via') :
    kind = kind' ∧ via = via' := by
  simpa using h.ofType_eq.symm.trans h'.ofType_eq

namespace Table

/-! ## Fields -/

/-- The column type that a field asks for, if it does, is one. -/
def AsksWell (f : FieldDecl) : Prop :=
  ∀ text, f.columnType = some text → ∃ t, ExplicitType.parse text = .ok t

/-- A field can become a column: its type comes down to a kind, which is that of
integers for the identity, and what it asks for is a column type. -/
structure IsSound (decls : DeclSet) (isIdentity : Bool) (f : FieldDecl) : Prop where
  resolves : ∃ kind via, Resolves decls f.type kind via ∧
    (isIdentity = true → kind = .int32 ∨ kind = .int64)
  asksWell : AsksWell f

/-- What is wrong with a field of the entity called `entity`. A fault is one only
if none of those above it is there. -/
inductive FieldFault (decls : DeclSet) (entity : String) (isIdentity : Bool) (f : FieldDecl) :
    CompileError → Prop where
  | unresolved {path : TypePath} (h : Unresolvable decls f.type (.unresolved path)) :
      FieldFault decls entity isIdentity f (.unresolvedType entity f.name f.typeText)
  | secondHop {path target : TypePath} (h : Unresolvable decls f.type (.chain path target)) :
      FieldFault decls entity isIdentity f
        (.synonymChain entity f.name path.name target.display)
  | unmappable {text : String} (h : Unresolvable decls f.type (.unmappable text)) :
      FieldFault decls entity isIdentity f (.noMapping entity f.name f.typeText)
  | invalidOverride {kind : Primitive} {via : Via} {text : String} {reason : OverrideError}
      (hresolves : Resolves decls f.type kind via) (hasks : f.columnType = some text)
      (h : ExplicitType.parse text = .error reason) :
      FieldFault decls entity isIdentity f (.invalidOverride entity f.name text reason)
  | notInteger {kind : Primitive} {via : Via} (hresolves : Resolves decls f.type kind via)
      (hasks : AsksWell f) (hidentity : isIdentity = true)
      (h : kind ≠ .int32 ∧ kind ≠ .int64) :
      FieldFault decls entity isIdentity f (.identityNotInteger entity f.name f.typeText)

private theorem isInteger_iff {kind : Primitive} :
    kind.isInteger = true ↔ kind = .int32 ∨ kind = .int64 := by
  cases kind <;> decide

private theorem ofKind_eq_error_iff {textBound : Nat} {kind : Primitive}
    {asked : Option String} {reason : OverrideError} :
    ColumnType.ofKind textBound kind asked = .error reason ↔
      ∃ text, asked = some text ∧ ExplicitType.parse text = .error reason := by
  cases asked with
  | none => simp [ColumnType.ofKind]
  | some text =>
      cases hparse : ExplicitType.parse text <;>
        simp [ColumnType.ofKind, hparse, Functor.map, Except.map]

private theorem exists_ofKind_eq_ok_iff (textBound : Nat) (kind : Primitive) {f : FieldDecl} :
    (∃ type, ColumnType.ofKind textBound kind f.columnType = .ok type) ↔ AsksWell f := by
  unfold AsksWell
  cases f.columnType with
  | none => simp [ColumnType.ofKind]
  | some text =>
      cases hparse : ExplicitType.parse text <;>
        simp [ColumnType.ofKind, hparse, Functor.map, Except.map]

variable {textBound : Nat} {entity : String} {isIdentity : Bool} {f : FieldDecl}

/-- The check of the kind fails for an identity that is no integer. -/
private theorem isRefused_iff {kind : Primitive} :
    (isIdentity && !kind.isInteger) = true ↔
      isIdentity = true ∧ kind ≠ .int32 ∧ kind ≠ .int64 := by
  rw [Bool.and_eq_true, Bool.not_eq_true', Bool.eq_false_iff, Ne, isInteger_iff, not_or]

/-- A field becomes a column exactly when it is sound. -/
theorem exists_column_eq_ok_iff :
    (∃ c, column decls textBound entity isIdentity f = .ok c) ↔ IsSound decls isIdentity f := by
  simp only [column_eq_ok_iff]
  constructor
  · rintro ⟨c, hc⟩
    refine ⟨⟨c.kind, c.via, ofType_eq_ok_iff.mp hc.resolved, fun hidentity => ?_⟩, ?_⟩
    · exact isInteger_iff.mp (hc.integer hidentity)
    · exact (exists_ofKind_eq_ok_iff textBound c.kind).mp ⟨c.type, hc.type⟩
  · rintro ⟨⟨kind, via, hresolves, hinteger⟩, hasks⟩
    obtain ⟨type, htype⟩ := (exists_ofKind_eq_ok_iff textBound kind).mpr hasks
    exact ⟨⟨snakeCase f.name, f.name, type, kind, via, isIdentity, isIdentity⟩, rfl, rfl,
      ofType_eq_ok_iff.mpr hresolves, htype,
      fun hidentity => isInteger_iff.mpr (hinteger hidentity), rfl, rfl⟩

/-- A field fails to become a column with an error exactly when that is its
fault. -/
theorem column_eq_error_iff {e : CompileError} :
    column decls textBound entity isIdentity f = .error e ↔
      FieldFault decls entity isIdentity f e := by
  unfold column
  rw [bind_eq_error_iff, mapError_eq_error_iff]
  constructor
  · rintro (⟨e', he', rfl⟩ | ⟨resolved, hresolved, h⟩)
    · cases e' with
      | unresolved path => exact .unresolved (ofType_eq_error_iff.mp he')
      | chain path target => exact .secondHop (ofType_eq_error_iff.mp he')
      | unmappable text => exact .unmappable (ofType_eq_error_iff.mp he')
    · have hresolves := ofType_eq_ok_iff.mp (mapError_eq_ok_iff.mp hresolved)
      rw [bind_eq_error_iff, mapError_eq_error_iff] at h
      rcases h with ⟨reason, hreason, rfl⟩ | ⟨type, htype, h⟩
      · obtain ⟨text, hasked, hparse⟩ := ofKind_eq_error_iff.mp hreason
        rw [hasked]
        exact .invalidOverride hresolves hasked hparse
      · have hasks := (exists_ofKind_eq_ok_iff textBound resolved.kind).mp
          ⟨type, mapError_eq_ok_iff.mp htype⟩
        split at h
        next hchecked =>
          obtain rfl : CompileError.identityNotInteger entity f.name f.typeText = e :=
            Except.error.inj h
          obtain ⟨hidentity, hkind⟩ := isRefused_iff.mp hchecked
          exact .notInteger hresolves hasks hidentity hkind
        next => cases h
  · intro h
    cases h with
    | unresolved h => exact .inl ⟨_, h.ofType_eq, rfl⟩
    | secondHop h => exact .inl ⟨_, h.ofType_eq, rfl⟩
    | unmappable h => exact .inl ⟨_, h.ofType_eq, rfl⟩
    | invalidOverride hresolves hasks h =>
        refine .inr ⟨_, mapError_eq_ok_iff.mpr hresolves.ofType_eq, ?_⟩
        rw [bind_eq_error_iff, mapError_eq_error_iff]
        refine .inl ⟨_, ofKind_eq_error_iff.mpr ⟨_, hasks, h⟩, ?_⟩
        rw [hasks]
        rfl
    | @notInteger kind via hresolves hasks hidentity h =>
        refine .inr ⟨_, mapError_eq_ok_iff.mpr hresolves.ofType_eq, ?_⟩
        obtain ⟨type, htype⟩ := (exists_ofKind_eq_ok_iff textBound kind).mpr hasks
        refine bind_eq_error_iff.mpr (.inr ⟨type, mapError_eq_ok_iff.mpr htype, ?_⟩)
        rw [if_pos (isRefused_iff.mpr ⟨hidentity, h⟩)]
        rfl

/-! ## The identity -/

/-- The fields have an identity: one alone is marked, or none is and a column is
called `id`. -/
def HasIdentity (fields : List FieldDecl) : Prop :=
  (∃ i : Nat, (∃ f, fields[i]? = some f ∧ f.isIdentity = true) ∧
      ∀ j g, fields[j]? = some g → g.isIdentity = true → j = i) ∨
    ((∀ f ∈ fields, f.isIdentity = false) ∧ ∃ f ∈ fields, snakeCase f.name = defaultIdentity)

/-- What is wrong with the fields of the entity called `entity` when they have no
identity. -/
inductive IdentityFault (entity : String) : List FieldDecl → CompileError → Prop where
  /-- The first two marked fields are named. -/
  | duplicate {before between rest : List FieldDecl} {first second : FieldDecl}
      (hbefore : ∀ f ∈ before, f.isIdentity = false)
      (hbetween : ∀ f ∈ between, f.isIdentity = false)
      (hfirst : first.isIdentity = true) (hsecond : second.isIdentity = true) :
      IdentityFault entity (before ++ first :: (between ++ second :: rest))
        (.duplicateIdentity entity first.name second.name)
  | missing {fields : List FieldDecl}
      (h : ∀ f ∈ fields, f.isIdentity = false ∧ snakeCase f.name ≠ defaultIdentity) :
      IdentityFault entity fields (.missingIdentity entity)

variable {fields : List FieldDecl}

theorem identityIndex_eq_error_iff {e : CompileError} :
    identityIndex entity fields = .error e ↔ IdentityFault entity fields e := by
  constructor
  · intro h
    unfold identityIndex at h
    split at h
    next first second rest hmarked =>
      cases h
      obtain ⟨before, after, rfl, hbefore, hfirst, hafter⟩ := List.filter_eq_cons_iff.mp hmarked
      obtain ⟨between, rest', rfl, hbetween, hsecond, -⟩ := List.filter_eq_cons_iff.mp hafter
      exact .duplicate (by simpa using hbefore) (by simpa using hbetween) hfirst hsecond
    next => cases h
    next hmarked =>
      split at h
      next => cases h
      next hnone =>
        cases h
        rw [List.filter_eq_nil_iff] at hmarked
        rw [List.findIdx?_eq_none_iff] at hnone
        refine .missing fun f hf => ⟨?_, ?_⟩
        · simpa using hmarked f hf
        · simpa using hnone f hf
  · intro h
    cases h with
    | @duplicate before between rest first second hbefore hbetween hfirst hsecond =>
        have hmarked : (before ++ first :: (between ++ second :: rest)).filter
            FieldDecl.isIdentity = first :: second :: rest.filter FieldDecl.isIdentity :=
          List.filter_eq_cons_iff.mpr ⟨before, _, rfl, by simpa using hbefore, hfirst,
            List.filter_eq_cons_iff.mpr ⟨between, rest, rfl, by simpa using hbetween, hsecond,
              rfl⟩⟩
        simp only [identityIndex, hmarked]
    | missing h =>
        have hmarked : fields.filter FieldDecl.isIdentity = [] :=
          List.filter_eq_nil_iff.mpr fun f hf => by simp [(h f hf).1]
        have hnone : fields.findIdx? (fun f => snakeCase f.name = defaultIdentity) = none :=
          List.findIdx?_eq_none_iff.mpr fun f hf => by simp [(h f hf).2]
        simp only [identityIndex, hmarked, hnone]

theorem IsIdentity.unique {k k' : Nat} (h : IsIdentity fields k) (h' : IsIdentity fields k') :
    k = k' := by
  have hindex : identityIndex "" fields = .ok k := identityIndex_eq_ok_iff.mpr h
  exact Except.ok.inj (hindex.symm.trans (identityIndex_eq_ok_iff.mpr h'))

theorem exists_isIdentity_iff : (∃ k, IsIdentity fields k) ↔ HasIdentity fields := by
  constructor
  · rintro ⟨k, f, hf, ⟨hmarked, hunique⟩ | ⟨hnone, hname, -⟩⟩
    · exact .inl ⟨k, ⟨f, hf, hmarked⟩, hunique⟩
    · exact .inr ⟨hnone, f, List.mem_of_getElem? hf, hname⟩
  · rintro (⟨k, ⟨f, hf, hmarked⟩, hunique⟩ | ⟨hnone, f, hf, hname⟩)
    · exact ⟨k, f, hf, .inl ⟨hmarked, hunique⟩⟩
    · have hfound : (fields.findIdx? fun f => snakeCase f.name = defaultIdentity).isSome :=
        List.findIdx?_isSome.trans (List.any_eq_true.mpr ⟨f, hf, decide_eq_true hname⟩)
      obtain ⟨k, hk⟩ := Option.isSome_iff_exists.mp hfound
      exact ⟨k, (isIdentity_iff_of_unmarked hnone).mpr hk⟩

/-! ## Entities -/

/-- An entity has a table: it is a struct with an identity, the types of all
fields come down to kinds, all column types that are asked for are ones, and the
identity is an integer. -/
structure IsCompilable (decls : DeclSet) (fields : List FieldDecl) : Prop where
  identity : HasIdentity fields
  resolves : ∀ f ∈ fields, ∃ kind via, Resolves decls f.type kind via
  asksWell : ∀ f ∈ fields, AsksWell f
  integer : ∀ k f kind via, IsIdentity fields k → fields[k]? = some f →
    Resolves decls f.type kind via → kind = .int32 ∨ kind = .int64

/-- What is wrong with an entity. -/
inductive Fault (decls : DeclSet) (entity : Decl) : CompileError → Prop where
  | notAStruct (h : ∀ fields marked, entity.kind ≠ .struct fields marked) :
      Fault decls entity (.notAStruct entity.name)
  | identity {fields : List FieldDecl} {marked : Bool} {e : CompileError}
      (hkind : entity.kind = .struct fields marked)
      (h : IdentityFault entity.name fields e) : Fault decls entity e
  /-- The field at position `i` is the first with a fault. -/
  | field {fields : List FieldDecl} {marked : Bool} {k i : Nat} {f : FieldDecl}
      {e : CompileError} (hkind : entity.kind = .struct fields marked)
      (hidentity : IsIdentity fields k) (hf : fields[i]? = some f)
      (h : FieldFault decls entity.name (i = k) f e)
      (hbefore : ∀ j g, j < i → fields[j]? = some g → IsSound decls (j = k) g) :
      Fault decls entity e

/-- An entity fails to compile with an error exactly when that is its fault. -/
theorem compile_eq_error_iff {entity : Decl} {e : CompileError} :
    compile decls textBound entity = .error e ↔ Fault decls entity e := by
  constructor
  · intro h
    unfold compile at h
    split at h
    next fields marked hkind =>
      rcases bind_eq_error_iff.mp h with h | ⟨k, hindex, h⟩
      · exact .identity hkind (identityIndex_eq_error_iff.mp h)
      rcases bind_eq_error_iff.mp h with h | ⟨columns, -, h⟩
      · obtain ⟨i, f, hf, herror, hbefore⟩ := mapM_zipIdx_eq_error_iff.mp h
        exact .field hkind (identityIndex_eq_ok_iff.mp hindex) hf
          (column_eq_error_iff.mp herror)
          fun j g hj hg => exists_column_eq_ok_iff.mp (hbefore j g hj hg)
      · cases h
    next hother =>
      cases h
      exact .notAStruct hother
  · intro h
    cases h with
    | notAStruct h =>
        unfold compile
        split
        next fields marked hkind => exact absurd hkind (h fields marked)
        next => rfl
    | identity hkind h =>
        simp only [compile, hkind]
        exact bind_eq_error_iff.mpr (.inl (identityIndex_eq_error_iff.mpr h))
    | @field fields marked k i f e hkind hidentity hf h hbefore =>
        have hcolumns : columnsOf decls textBound entity.name k fields = .error e :=
          mapM_zipIdx_eq_error_iff.mpr ⟨i, f, hf, column_eq_error_iff.mpr h, fun j g hj hg =>
            exists_column_eq_ok_iff.mpr (hbefore j g hj hg)⟩
        simp only [compile, hkind]
        refine bind_eq_error_iff.mpr (.inr ⟨k, identityIndex_eq_ok_iff.mpr hidentity, ?_⟩)
        exact bind_eq_error_iff.mpr (.inl hcolumns)

/-- The fields of a table are sound. -/
theorem IsTableOf.isSound {entity : Decl} {k : Nat} {t : Table}
    (h : IsTableOf decls textBound entity fields k t) {i : Nat} {f : FieldDecl}
    (hf : fields[i]? = some f) : IsSound decls (i = k) f := by
  obtain ⟨hi, -⟩ := List.getElem?_eq_some_iff.mp hf
  have hc := List.getElem?_eq_getElem (h.length.symm ▸ hi)
  have hcolumn : Table.column decls textBound entity.name (i = k) f = .ok _ :=
    column_eq_ok_iff.mpr (h.column i f _ hf hc)
  exact exists_column_eq_ok_iff.mp ⟨_, hcolumn⟩

theorem IsTableOf.isCompilable {entity : Decl} {k : Nat} {t : Table}
    (h : IsTableOf decls textBound entity fields k t) : IsCompilable decls fields where
  identity := exists_isIdentity_iff.mp ⟨k, h.identity⟩
  resolves := by
    intro f hf
    obtain ⟨i, hi⟩ := List.mem_iff_getElem?.mp hf
    obtain ⟨kind, via, hresolves, -⟩ := (h.isSound hi).resolves
    exact ⟨kind, via, hresolves⟩
  asksWell := by
    intro f hf
    obtain ⟨i, hi⟩ := List.mem_iff_getElem?.mp hf
    exact (h.isSound hi).asksWell
  integer := by
    intro k' f kind via hidentity hf hresolves
    obtain rfl := hidentity.unique h.identity
    obtain ⟨kind', via', hresolves', hinteger⟩ := (h.isSound hf).resolves
    obtain ⟨rfl, -⟩ := hresolves.unique hresolves'
    exact hinteger (decide_eq_true rfl)

theorem IsCompilable.isSound (h : IsCompilable decls fields) {k i : Nat} {f : FieldDecl}
    (hidentity : IsIdentity fields k) (hf : fields[i]? = some f) :
    IsSound decls (i = k) f := by
  obtain ⟨kind, via, hresolves⟩ := h.resolves f (List.mem_of_getElem? hf)
  refine ⟨⟨kind, via, hresolves, fun hi => ?_⟩, h.asksWell f (List.mem_of_getElem? hf)⟩
  obtain rfl : i = k := of_decide_eq_true hi
  exact h.integer i f kind via hidentity hf hresolves

theorem exists_compile_eq_ok_iff {entity : Decl} :
    (∃ t, compile decls textBound entity = .ok t) ↔
      ∃ fields marked, entity.kind = .struct fields marked ∧ IsCompilable decls fields := by
  constructor
  · rintro ⟨t, ht⟩
    obtain ⟨fields, marked, k, hkind, h⟩ := compile_eq_ok_iff.mp ht
    exact ⟨fields, marked, hkind, h.isCompilable⟩
  · rintro ⟨fields, marked, hkind, h⟩
    cases hcompile : compile decls textBound entity with
    | ok t => exact ⟨t, rfl⟩
    | error e =>
        exfalso
        cases compile_eq_error_iff.mp hcompile with
        | notAStruct hother => exact hother fields marked hkind
        | identity hkind' hfault =>
            obtain ⟨rfl, -⟩ : fields = _ ∧ _ := by simpa using hkind.symm.trans hkind'
            obtain ⟨k, hk⟩ := exists_isIdentity_iff.mpr h.identity
            cases (identityIndex_eq_ok_iff.mpr hk).symm.trans
              (identityIndex_eq_error_iff.mpr hfault)
        | @field _ _ k i f _ hkind' hidentity hf hfault =>
            obtain ⟨rfl, -⟩ : fields = _ ∧ _ := by simpa using hkind.symm.trans hkind'
            obtain ⟨c, hc⟩ : ∃ c, column decls textBound entity.name (i = k) f = .ok c :=
              exists_column_eq_ok_iff.mpr (h.isSound hidentity hf)
            cases hc.symm.trans (column_eq_error_iff.mpr hfault)

/-- A filter that keeps the member at one position, and no other, keeps that. -/
private theorem filter_eq_singleton {α : Type} {p : α → Bool} {xs : List α} {k : Nat} {x : α}
    (hx : xs[k]? = some x) (h : ∀ i y, xs[i]? = some y → (p y = true ↔ i = k)) :
    xs.filter p = [x] := by
  induction xs generalizing k with
  | nil => cases hx
  | cons y ys ih =>
      have hy := h 0 y rfl
      cases k with
      | zero =>
          obtain rfl : y = x := Option.some.inj hx
          have hrest : ∀ z ∈ ys, ¬ p z = true := by
            intro z hz
            obtain ⟨i, hi⟩ := List.mem_iff_getElem?.mp hz
            simpa using h (i + 1) z hi
          rw [List.filter_cons_of_pos (hy.mpr rfl), List.filter_eq_nil_iff.mpr hrest]
      | succ k =>
          rw [List.filter_cons_of_neg (by simpa using hy)]
          exact ih hx fun i z hz => by simpa using h (i + 1) z hz

/-- Of the columns of a table that at the position of the identity alone is the
primary key, and it alone is numbered by the database. -/
theorem IsTableOf.filter_eq {entity : Decl} {k : Nat} {t : Table}
    (h : IsTableOf decls textBound entity fields k t) :
    ∃ c, t.columns[k]? = some c ∧ t.columns.filter Column.primaryKey = [c] ∧
      t.columns.filter Column.autoIncrement = [c] := by
  obtain ⟨f, c, -, hc, -⟩ := h.exists_identity
  refine ⟨c, hc, filter_eq_singleton hc fun i d hd => h.primaryKey_iff hd,
    filter_eq_singleton hc fun i d hd => ?_⟩
  obtain ⟨g, -, hcolumn⟩ := h.exists_field hd
  simp [hcolumn.autoIncrement]

/-- Compilation is exact. It succeeds for the compilable structs and no other
declaration. A table has one column for each field in order, and the one column
that is the primary key and is numbered by the database is that of the identity.
An error is the first fault. -/
theorem compile_exact (decls : DeclSet) (textBound : Nat) (entity : Decl) :
    ((∃ t, compile decls textBound entity = .ok t) ↔
        ∃ fields marked, entity.kind = .struct fields marked ∧ IsCompilable decls fields) ∧
      (∀ t, compile decls textBound entity = .ok t ↔
        ∃ fields marked k c, entity.kind = .struct fields marked ∧
          IsTableOf decls textBound entity fields k t ∧ t.columns[k]? = some c ∧
          t.columns.filter Column.primaryKey = [c] ∧
          t.columns.filter Column.autoIncrement = [c]) ∧
      ∀ e, compile decls textBound entity = .error e ↔ Fault decls entity e := by
  refine ⟨exists_compile_eq_ok_iff, fun t => ?_, fun e => compile_eq_error_iff⟩
  rw [compile_eq_ok_iff]
  constructor
  · rintro ⟨fields, marked, k, hkind, h⟩
    obtain ⟨c, hc, hprimary, hauto⟩ := h.filter_eq
    exact ⟨fields, marked, k, c, hkind, h, hc, hprimary, hauto⟩
  · rintro ⟨fields, marked, k, c, hkind, h, -⟩
    exact ⟨fields, marked, k, hkind, h⟩

/-- A synonym of itself is a second hop. What is wrong with the override is not
looked for. -/
example : compile (.insert {} ⟨⟨"crate", "Id"⟩, .synonym (.named ⟨"crate", "Id"⟩)⟩) 255
    ⟨⟨"crate", "Node"⟩,
      .struct [⟨"id", .named ⟨"crate", "Id"⟩, "Id", some "INT(", false⟩] true⟩ =
    .error (.synonymChain "Node" "id" "Id" "crate::Id") := by
  decide +kernel

end Table

end Rowsmith
