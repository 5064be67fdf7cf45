/-
# Metadata and tables agree

The metadata of a struct is read off its definition in one scan that remembers
the marked column. Its table is compiled from the collected declaration, which
searches for the identity by position. `metadata_agrees_with_table` says that
both find the same identity or fail for the same reason, and that what they
report of the table, its columns and its identity is equal.
-/

import Rowsmith.Declaration.Collect
import Rowsmith.Proofs.Declaration.FieldOptions
import Rowsmith.Proofs.Declaration.Set
import Rowsmith.Proofs.Table.Compile

namespace Rowsmith

open Source Table Text

/-- The declaration `d` has the name and the mark of the field `f`. -/
structure ReadAlike (f : Field) (d : FieldDecl) : Prop where
  name : d.name = f.name.text
  mark : Metadata.marksIdentity false f.attributes = .ok d.isIdentity

/-- The reason for which there are no metadata is that for which there is no
table. -/
inductive SameReason : MetadataError → CompileError → Prop
  | missing (entity : String) : SameReason .noIdentity (.missingIdentity entity)
  | duplicate (entity first second : String) :
      SameReason (.duplicateIdentity (snakeCase first)) (.duplicateIdentity entity first second)

/-! ## Collecting the fields -/

theorem readAlike_of_field {scope : Scope} {f : Field} {d : FieldDecl} {b : Bool}
    (hfield : Collect.field scope f = .ok d)
    (hmark : Metadata.marksIdentity false f.attributes = .ok b) : ReadAlike f d := by
  unfold Collect.field at hfield
  cases hoptions : FieldOptions.ofAttributes f.attributes with
  | error e => simp [hoptions, bind, Except.bind] at hfield
  | ok options =>
      simp only [hoptions, bind, Except.bind, pure, Except.pure, Except.ok.injEq] at hfield
      subst hfield
      have hsame := Metadata.isIdentity_eq_of_marksIdentity hmark hoptions
      exact ⟨rfl, hsame ▸ hmark⟩

/-- Fields whose attributes both readers accept are collected, each with its
name and its mark. -/
theorem exists_collected_fields (scope : Scope) {fields : List Field}
    (hmarks : ∀ f ∈ fields, ∃ b, Metadata.marksIdentity false f.attributes = .ok b)
    (hoptions : ∀ f ∈ fields, ∃ o, FieldOptions.ofAttributes f.attributes = .ok o) :
    ∃ decls, fields.mapM (Collect.field scope) = .ok decls ∧
      List.Forall₂ ReadAlike fields decls := by
  induction fields with
  | nil => exact ⟨[], rfl, .nil⟩
  | cons f fields ih =>
      obtain ⟨b, hmark⟩ := hmarks f List.mem_cons_self
      obtain ⟨o, hoption⟩ := hoptions f List.mem_cons_self
      obtain ⟨decls, hdecls, halike⟩ := ih (fun g hg => hmarks g (List.mem_cons_of_mem _ hg))
        fun g hg => hoptions g (List.mem_cons_of_mem _ hg)
      obtain ⟨d, hd⟩ : ∃ d, Collect.field scope f = .ok d := by
        simp [Collect.field, hoption, bind, Except.bind, pure, Except.pure]
      refine ⟨d :: decls, ?_, .cons (readAlike_of_field hd hmark) halike⟩
      exact mapM_eq_ok_iff.mpr (.cons hd (mapM_eq_ok_iff.mp hdecls))

/-- A struct whose fields are collected is found under its path. -/
theorem exists_collected_struct (scope : Scope) (set : DeclSet) {attributes : List Attribute}
    {n : Name} {fields : List Field} {decls : List FieldDecl} {marked : Bool}
    (hfields : fields.mapM (Collect.field scope) = .ok decls)
    (hderive : Collect.derivesEntity attributes = .ok marked) :
    ∃ set', Collect.item scope set (.struct attributes n (.named fields)) = .ok set' ∧
      set'.get? ⟨scope.module, n.text⟩ =
        some ⟨⟨scope.module, n.text⟩, .struct decls marked⟩ := by
  refine ⟨set.insert ⟨⟨scope.module, n.text⟩, .struct decls marked⟩, ?_,
    DeclSet.get?_insert_self set _⟩
  simp [Collect.item, Collect.structKind, hfields, hderive, bind, Except.bind, pure, Except.pure]

/-! ## The scan for the marked column -/

namespace Metadata

/-- After a marked column a scan fails at the next one. -/
theorem readFields_some {first : String} {fields : List Field} {decls : List FieldDecl}
    (h : List.Forall₂ ReadAlike fields decls) :
    readFields (some first) fields =
      if decls.any FieldDecl.isIdentity then .error (.duplicateIdentity first)
      else .ok (columnNames decls, some first) := by
  induction h with
  | nil => rfl
  | @cons f d fields decls hfield _ ih =>
      rw [readFields, hfield.mark]
      cases hd : d.isIdentity with
      | true => simp [hd, bind, Except.bind, throw, throwThe, MonadExceptOf.throw]
      | false =>
          rw [List.any_cons, hd, Bool.false_or]
          cases hany : decls.any FieldDecl.isIdentity <;>
            simp [ih, hany, hfield.name, columnNames, bind, Except.bind, pure,
              Except.pure]

/-- A scan reports the one marked column, or none where no field is marked. -/
theorem readFields_none {fields : List Field} {decls : List FieldDecl}
    (h : List.Forall₂ ReadAlike fields decls) :
    readFields none fields =
      match decls.filter FieldDecl.isIdentity with
      | first :: _ :: _ => .error (.duplicateIdentity (snakeCase first.name))
      | [first] => .ok (columnNames decls, some (snakeCase first.name))
      | [] => .ok (columnNames decls, none) := by
  induction h with
  | nil => rfl
  | @cons f d fields decls hfield hfields ih =>
      rw [readFields, hfield.mark]
      cases hd : d.isIdentity with
      | true =>
          rw [List.filter_cons_of_pos hd]
          cases hrest : decls.filter FieldDecl.isIdentity with
          | nil =>
              have hany : decls.any FieldDecl.isIdentity = false := by
                simpa [List.filter_eq_nil_iff] using hrest
              simp [readFields_some hfields, hany, hfield.name, columnNames, bind,
                Except.bind, pure, Except.pure]
          | cons second rest =>
              have hmem : second ∈ decls.filter FieldDecl.isIdentity :=
                hrest ▸ List.mem_cons_self
              have hany : decls.any FieldDecl.isIdentity = true :=
                List.any_eq_true.mpr
                  ⟨second, List.mem_of_mem_filter hmem, List.of_mem_filter hmem⟩
              simp [readFields_some hfields, hany, hfield.name, bind, Except.bind]
      | false =>
          rw [List.filter_cons_of_neg (by simp [hd])]
          simp only [ih, bind, Except.bind, Bool.false_eq_true, if_false]
          cases decls.filter FieldDecl.isIdentity with
          | nil => simp [hfield.name, columnNames, pure, Except.pure]
          | cons first rest =>
              cases rest with
              | nil => simp [hfield.name, columnNames, pure, Except.pure]
              | cons second rest => rfl

theorem ofFields_eq (name : String) {fields : List Field} {decls : List FieldDecl}
    (h : List.Forall₂ ReadAlike fields decls) :
    ofFields name fields =
      match decls.filter FieldDecl.isIdentity with
      | first :: _ :: _ => .error (.duplicateIdentity (snakeCase first.name))
      | [first] => .ok ⟨snakeCase name, columnNames decls, snakeCase first.name⟩
      | [] =>
        if (columnNames decls).contains defaultIdentity then
          .ok ⟨snakeCase name, columnNames decls, defaultIdentity⟩
        else .error .noIdentity := by
  rw [ofFields, readFields_none h]
  cases decls.filter FieldDecl.isIdentity with
  | nil => rfl
  | cons first rest =>
      cases rest with
      | nil => rfl
      | cons second rest => rfl

end Metadata

/-! ## Both searches -/

/-- What a scan and a search by position say of the same fields: both fail for
one reason, or the metadata name the column of the field that the search finds. -/
inductive Agree (name : String) (decls : List FieldDecl) :
    Except MetadataError Metadata → Except CompileError Nat → Prop
  | found {k : Nat} {f : FieldDecl} : decls[k]? = some f →
      Agree name decls (.ok ⟨snakeCase name, columnNames decls, snakeCase f.name⟩) (.ok k)
  | failed {e : MetadataError} {e' : CompileError} : SameReason e e' →
      Agree name decls (.error e) (.error e')

theorem agree_of_readAlike (name : String) {fields : List Field} {decls : List FieldDecl}
    (h : List.Forall₂ ReadAlike fields decls) :
    Agree name decls (Metadata.ofFields name fields) (identityIndex name decls) := by
  rw [Metadata.ofFields_eq name h, identityIndex]
  cases hmarked : decls.filter FieldDecl.isIdentity with
  | nil =>
      cases hfind : decls.findIdx? (fun f => snakeCase f.name = defaultIdentity) with
      | none =>
          have hnot : (columnNames decls).contains defaultIdentity = false := by
            simpa [columnNames] using hfind
          simp only [hnot, Bool.false_eq_true, if_false]
          exact .failed (.missing name)
      | some i =>
          obtain ⟨hi, hname, -⟩ := List.findIdx?_eq_some_iff_getElem.mp hfind
          have hid : snakeCase decls[i].name = defaultIdentity := of_decide_eq_true hname
          have hmem : (columnNames decls).contains defaultIdentity = true := by
            rw [List.contains_iff_mem, columnNames, List.mem_map]
            exact ⟨decls[i], List.getElem_mem hi, hid⟩
          simp only [hmem, if_true]
          exact hid ▸ .found (List.getElem?_eq_getElem hi)
  | cons first rest =>
      cases rest with
      | nil =>
          have hfirst : first ∈ decls.filter FieldDecl.isIdentity :=
            hmarked ▸ List.mem_cons_self
          have hlt : decls.findIdx FieldDecl.isIdentity < decls.length :=
            List.findIdx_lt_length_of_exists
              ⟨first, List.mem_of_mem_filter hfirst, List.of_mem_filter hfirst⟩
          have hfound : decls[decls.findIdx FieldDecl.isIdentity] ∈
              decls.filter FieldDecl.isIdentity :=
            List.mem_filter.mpr ⟨List.getElem_mem hlt, List.findIdx_getElem⟩
          have hsame : decls[decls.findIdx FieldDecl.isIdentity] = first := by
            simpa [hmarked] using hfound
          exact hsame ▸ .found (List.getElem?_eq_getElem hlt)
      | cons second rest => exact .failed (.duplicate name first.name second.name)

/-! ## Metadata and table -/

/-- The metadata of the definition `d` and the table of `entity`, which declares
`decls`, agree. -/
structure AgreesWith (d : Definition) (entity : Decl) (decls : List FieldDecl) : Prop where
  /-- There are no metadata exactly where the search for the identity fails. -/
  fails_iff : (∃ e, Metadata.ofDefinition d = .error e) ↔
    ∃ e, identityIndex entity.name decls = .error e
  reason : ∀ e e', Metadata.ofDefinition d = .error e →
    identityIndex entity.name decls = .error e' → SameReason e e'
  /-- Whatever the other declarations are, the table has what the metadata name. -/
  table : ∀ against textBound m t, Metadata.ofDefinition d = .ok m →
    compile against textBound entity = .ok t →
    m.table = t.name ∧ m.columns = t.columns.map Column.name ∧ m.identity = t.identityName ∧
      ∀ name, m.hasColumn name = t.hasColumn name

/-- The answers of both for a name follow from their columns. -/
theorem hasColumn_eq_of_columns {m : Metadata} {t : Table}
    (h : m.columns = t.columns.map Column.name) (name : String) :
    m.hasColumn name = t.hasColumn name := by
  rw [Metadata.hasColumn, Table.hasColumn, h, Bool.eq_iff_iff]
  simp

theorem agreesWith_of_agree {d : Definition} {fields : List Field} {entity : Decl}
    {decls : List FieldDecl} {marked : Bool} (hbody : d.body = .struct (.named fields))
    (hname : entity.name = d.name.text) (hkind : entity.kind = .struct decls marked)
    (h : Agree entity.name decls (Metadata.ofFields entity.name fields)
      (identityIndex entity.name decls)) : AgreesWith d entity decls := by
  have hdefinition : Metadata.ofDefinition d = Metadata.ofFields entity.name fields := by
    rw [Metadata.ofDefinition, hbody, hname]
  generalize hread : Metadata.ofFields entity.name fields = read at h hdefinition
  generalize hindex : identityIndex entity.name decls = index at h
  cases h with
  | failed hreason =>
      refine ⟨by simp [hdefinition, hindex], ?_, ?_⟩
      · rintro e e' he he'
        rw [hdefinition] at he
        rw [hindex] at he'
        cases he
        cases he'
        exact hreason
      · intro against textBound m t hm
        rw [hdefinition] at hm
        cases hm
  | @found k f hf =>
      refine ⟨by simp [hdefinition, hindex], ?_, ?_⟩
      · intro e e' he
        rw [hdefinition] at he
        cases he
      · intro against textBound m t hm ht
        rw [hdefinition] at hm
        cases hm
        obtain ⟨decls', marked', k', hkind', htable⟩ := compile_eq_ok_iff.mp ht
        obtain ⟨rfl, -⟩ := DeclKind.struct.inj (hkind.symm.trans hkind')
        have hk : k' = k := by
          rw [identityIndex_eq_ok_iff.mpr htable.identity] at hindex
          exact Except.ok.inj hindex
        have hcolumns := htable.map_name_columns.symm
        exact ⟨htable.name.symm, hcolumns, (htable.identityName_eq (hk ▸ hf)).symm,
          hasColumn_eq_of_columns hcolumns⟩

/-- The fields of a struct whose attributes both readers accept are collected. The
struct is then found under its path, if only its derive attributes can be read,
and whatever they say its metadata agree with the table of its declaration. -/
theorem metadata_agrees_with_table {d : Definition} {fields : List Field} (scope : Scope)
    (set : DeclSet) (attributes : List Attribute) (hbody : d.body = .struct (.named fields))
    (hmarks : ∀ f ∈ fields, ∃ b, Metadata.marksIdentity false f.attributes = .ok b)
    (hoptions : ∀ f ∈ fields, ∃ o, FieldOptions.ofAttributes f.attributes = .ok o) :
    ∃ decls,
      (∀ marked, Collect.derivesEntity attributes = .ok marked →
        ∃ set', Collect.item scope set (.struct attributes d.name (.named fields)) = .ok set' ∧
          set'.get? ⟨scope.module, d.name.text⟩ =
            some ⟨⟨scope.module, d.name.text⟩, .struct decls marked⟩) ∧
      ∀ marked, AgreesWith d ⟨⟨scope.module, d.name.text⟩, .struct decls marked⟩ decls := by
  obtain ⟨decls, hdecls, halike⟩ := exists_collected_fields scope hmarks hoptions
  refine ⟨decls, fun marked hderive => exists_collected_struct scope set hdecls hderive, ?_⟩
  intro marked
  exact agreesWith_of_agree hbody rfl rfl (agree_of_readAlike d.name.text halike)

/-- Two fields: one is marked, and the column of the other has the name of the
identity where no field is marked. -/
def ledgerFields : List Field :=
  [{ attributes :=
      [⟨false, [⟨"dbcrud", false, by decide⟩], .arguments [.name ⟨"id", false, by decide⟩]⟩]
     name := ⟨"entryNo", false, by decide⟩
     type := .path ⟨false, [⟨⟨"i64", false, by decide⟩, none⟩]⟩
      [.name ⟨"i64", false, by decide⟩] },
   { attributes := []
     name := ⟨"Id", false, by decide⟩
     type := .path ⟨false, [⟨⟨"String", false, by decide⟩, none⟩]⟩
      [.name ⟨"String", false, by decide⟩] }]

/-- Attributes that derive `Entity`. -/
def ledgerAttributes : List Attribute :=
  [⟨false, [⟨"derive", false, by decide⟩], .arguments [.name ⟨"Entity", false, by decide⟩]⟩]

/-- The definition of a struct with these fields. -/
def ledger : Definition where
  attributes := []
  name := ⟨"Ledger", false, by decide⟩
  parameters := []
  constraints := none
  body := .struct (.named ledgerFields)

theorem metadata_agrees_with_table_ledger :
    Metadata.ofDefinition ledger = .ok ⟨"ledger", ["entry_no", "id"], "entry_no"⟩ ∧
      Collect.derivesEntity ledgerAttributes = .ok true ∧
      ∃ decls,
        (∀ marked, Collect.derivesEntity ledgerAttributes = .ok marked →
          ∃ set', Collect.item ⟨"app", []⟩ .empty
              (.struct ledgerAttributes ledger.name (.named ledgerFields)) = .ok set' ∧
            set'.get? ⟨"app", "Ledger"⟩ = some ⟨⟨"app", "Ledger"⟩, .struct decls marked⟩) ∧
        ∀ marked, AgreesWith ledger ⟨⟨"app", "Ledger"⟩, .struct decls marked⟩ decls := by
  have hmarks : ∀ f ∈ ledgerFields, ∃ b, Metadata.marksIdentity false f.attributes = .ok b :=
    List.forall_mem_cons.mpr ⟨⟨true, by rfl⟩, List.forall_mem_singleton.mpr ⟨false, by rfl⟩⟩
  have hoptions : ∀ f ∈ ledgerFields, ∃ o, FieldOptions.ofAttributes f.attributes = .ok o :=
    List.forall_mem_cons.mpr ⟨⟨⟨true, none⟩, by rfl⟩,
      List.forall_mem_singleton.mpr ⟨⟨false, none⟩, by rfl⟩⟩
  exact ⟨by rfl, by rfl,
    metadata_agrees_with_table ⟨"app", []⟩ .empty ledgerAttributes rfl hmarks hoptions⟩

end Rowsmith
