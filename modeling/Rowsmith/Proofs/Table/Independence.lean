/-
# What the table of an entity depends on

The compiler looks up the paths that the fields of an entity name, each by its module
and its name, and looks up nothing for what it finds there. So two sets of
declarations that answer alike for these paths give the entity one table, or one
error. The order in which declarations were found, declarations of the same bare name
and all other entities make no difference.
-/

import Rowsmith.Proofs.Declaration.Set
import Rowsmith.Proofs.Traversal
import Rowsmith.Table.Compile

namespace Rowsmith

/-- A field of the declaration has the type that is declared at `path`. -/
def Decl.Names (d : Decl) (path : TypePath) : Prop :=
  ∃ fields marked f, d.kind = .struct fields marked ∧ f ∈ fields ∧ f.type = .named path

/-! ## Sets that answer alike -/

/-- Two sets answer alike for every path that a field of `entity` names. -/
def AnswerAlike (entity : Decl) (s s' : DeclSet) : Prop :=
  ∀ path, entity.Names path → s.get? path = s'.get? path

namespace AnswerAlike

variable {entity : Decl} {s s' : DeclSet}

/-- Sets that have the same declarations at the named paths, wherever they stand, answer
alike. -/
theorem of_mem_iff (h : ∀ d, entity.Names d.path → (d ∈ s.decls ↔ d ∈ s'.decls)) :
    AnswerAlike entity s s' := by
  intro path hpath
  apply Option.ext
  intro d
  rw [DeclSet.get?_eq_some_iff, DeclSet.get?_eq_some_iff]
  refine and_congr_left fun heq => h d ?_
  rwa [heq]

/-- Insertions that have the same declarations in the same order at each named path keep what
is answered alike. -/
theorem insertAll (hs : AnswerAlike entity s s') {decls decls' : List Decl}
    (h : ∀ path, entity.Names path →
      (decls.filter fun d => d.path = path) = decls'.filter fun d => d.path = path) :
    AnswerAlike entity (s.insertAll decls) (s'.insertAll decls') := by
  intro path hpath
  rw [DeclSet.get?_insertAll, DeclSet.get?_insertAll, h path hpath, hs path hpath]

end AnswerAlike

/-! ## The compiler -/

theorem Resolved.ofType_congr {s s' : DeclSet} {type : TypeRef}
    (h : ∀ path, type = .named path → s.get? path = s'.get? path) :
    ofType s type = ofType s' type := by
  cases type with
  | primitive kind => rfl
  | unsupported text => rfl
  | named path => simp only [ofType, h path rfl]

namespace Table

theorem columnsOf_congr {s s' : DeclSet} {fields : List FieldDecl}
    (h : ∀ f ∈ fields, ∀ path, f.type = .named path → s.get? path = s'.get? path)
    (textBound : Nat) (entity : String) (k : Nat) :
    columnsOf s textBound entity k fields = columnsOf s' textBound entity k fields := by
  refine mapM_congr ?_
  rintro ⟨f, i⟩ hf
  rw [column, column, Resolved.ofType_congr (h f (List.fst_mem_of_mem_zipIdx hf))]

/-- The compiler reads nothing of a set but what it answers for the named paths. -/
theorem compile_congr {entity : Decl} {s s' : DeclSet} (h : AnswerAlike entity s s')
    (textBound : Nat) : compile s textBound entity = compile s' textBound entity := by
  unfold compile
  split
  next fields marked hkind =>
    have hfields : ∀ f ∈ fields, ∀ path, f.type = .named path → s.get? path = s'.get? path :=
      fun f hf path htype => h path ⟨fields, marked, f, hkind, hf, htype⟩
    simp only [columnsOf_congr hfields]
  next => rfl

/-- An entity has the same table, or the same error, with two sets of declarations that answer
alike for every path that its fields name. Two sets do if they have the same declarations at these
paths, in whatever order and among whatever others. Insertions keep it so if at each of these paths
the same declarations are inserted in the same order, whatever is inserted elsewhere. -/
theorem compile_depends_on_named (textBound : Nat) (entity : Decl) :
    (∀ s s' : DeclSet, AnswerAlike entity s s' →
      compile s textBound entity = compile s' textBound entity) ∧
    (∀ s s' : DeclSet, (∀ d, entity.Names d.path → (d ∈ s.decls ↔ d ∈ s'.decls)) →
        compile s textBound entity = compile s' textBound entity) ∧
    ∀ (s : DeclSet) (decls decls' : List Decl),
      (∀ path, entity.Names path →
        (decls.filter fun d => d.path = path) = decls'.filter fun d => d.path = path) →
      compile (s.insertAll decls) textBound entity =
        compile (s.insertAll decls') textBound entity := by
  refine ⟨fun s s' h => compile_congr h textBound, fun s s' h => ?_,
    fun s decls decls' h => ?_⟩
  · exact compile_congr (.of_mem_iff h) textBound
  · have halike : AnswerAlike entity s s := fun _ _ => rfl
    exact compile_congr (halike.insertAll h) textBound

/-- An entity with a field whose type is declared in another module. -/
def invoice : Decl where
  path := ⟨"crate", "Invoice"⟩
  kind := .struct
    [ ⟨"id", .primitive .int64, "i64", none, false⟩,
      ⟨"total", .named ⟨"crate::money", "Cents"⟩, "Cents", none, false⟩ ] true

/-- The type of the field. -/
def cents : Decl :=
  ⟨⟨"crate::money", "Cents"⟩, .newtype (.primitive .int64)⟩

/-- Another type of that name. -/
def oldCents : Decl :=
  ⟨⟨"crate::legacy", "Cents"⟩, .synonym (.primitive .text)⟩

theorem names_invoice {path : TypePath} (h : invoice.Names path) : path = cents.path := by
  obtain ⟨fields, marked, f, hkind, hf, htype⟩ := h
  cases hkind
  simp only [List.mem_cons, List.not_mem_nil, or_false] at hf
  rcases hf with rfl | rfl
  · cases htype
  · exact (TypeRef.named.inj htype).symm

theorem compile_depends_on_named_invoice :
    compile (.insert {} cents) 255 invoice =
        compile (.insertAll {} [oldCents, invoice, cents]) 255 invoice ∧
      (∃ t, compile (.insert {} cents) 255 invoice = .ok t) ∧
      compile {} 255 invoice = compile (.insertAll {} [oldCents, invoice]) 255 invoice ∧
      compile {} 255 invoice = .error (.unresolvedType "Invoice" "total" "Cents") ∧
      compile (DeclSet.insertAll {} [oldCents, cents, invoice]) 255 invoice =
        compile (DeclSet.insertAll {} [cents, { oldCents with kind := .other }]) 255 invoice := by
  obtain ⟨hanswers, hmembers, hinsertions⟩ := compile_depends_on_named 255 invoice
  have hone : (DeclSet.insert {} cents).decls = [cents] := by decide
  have hthree : (DeclSet.insertAll {} [oldCents, invoice, cents]).decls =
      [oldCents, invoice, cents] := by
    decide
  refine ⟨hmembers _ _ fun d hd => ?_, ⟨_, rfl⟩,
    hanswers _ _ fun path hpath => ?_, rfl, hinsertions {} _ _ fun path hpath => ?_⟩
  · have hpath := names_invoice hd
    simp only [hone, hthree, List.mem_cons, List.not_mem_nil, or_false]
    refine ⟨fun h => .inr (.inr h), ?_⟩
    rintro (rfl | rfl | rfl)
    · exact absurd hpath (by decide)
    · exact absurd hpath (by decide)
    · rfl
  · rw [names_invoice hpath]
    rfl
  · rw [names_invoice hpath]
    rfl

end Table

end Rowsmith
