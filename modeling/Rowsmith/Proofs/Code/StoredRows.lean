/-
# Rows made from numbers

The emitted tests make rows and payloads from numbers, column by column. In a table
whose columns have names of their own the rows that they make, and what the table does
with them, come down to numbers: which rows a payload describes, what a change makes
of a row, and which row an insertion stores.
-/

import Rowsmith.Proofs.Code.MemoryTable
import Rowsmith.Proofs.Statement.Fields
import Rowsmith.Proofs.Table.Compile
import Rowsmith.Proofs.Traversal

namespace Rowsmith

/-! ## Tables with an identity -/

/-- Whether the type of a column is a struct around a value. -/
def Column.isWrapped (c : Column) : Bool :=
  match c.via with
  | .newtype _ => true
  | _ => false

namespace Table

/-- The column `i` is the identity of a table whose columns have names of their own. -/
structure IsKeyed (t : Table) (i : Column) : Prop where
  identity : t.identity? = some i
  mem : i ∈ t.columns
  primaryKey_iff : ∀ c ∈ t.columns, c.primaryKey = true ↔ c = i
  isInteger : i.kind.isInteger = true
  name_inj : ∀ c ∈ t.columns, ∀ d ∈ t.columns, d.name = c.name → d = c
  field_inj : ∀ c ∈ t.columns, ∀ d ∈ t.columns, d.field = c.field → d = c
  nodup : (t.columns.map Column.name).Nodup

theorem IsTableOf.exists_isKeyed {decls : DeclSet} {textBound k : Nat} {entity : Decl}
    {fields : List FieldDecl} {t : Table} (h : IsTableOf decls textBound entity fields k t)
    (hnodup : (t.columns.map Column.name).Nodup) : ∃ i, t.IsKeyed i := by
  obtain ⟨f, i, -, hi, hcolumn⟩ := h.exists_identity
  obtain ⟨hk, rfl⟩ := List.getElem?_eq_some_iff.mp hi
  have hname : ∀ c ∈ t.columns, ∀ d ∈ t.columns, d.name = c.name → d = c :=
    fun c hc d hd heq => List.inj_on_of_nodup_map hnodup hd hc heq
  have hfield : ∀ c ∈ t.columns, ∃ f, c.name = Text.snakeCase f ∧ c.field = f := by
    intro c hc
    obtain ⟨j, hj⟩ := List.mem_iff_getElem?.mp hc
    obtain ⟨f, -, hcolumn⟩ := h.exists_field hj
    exact ⟨f.name, hcolumn.name, hcolumn.field⟩
  refine ⟨t.columns[k], h.identity?_eq.trans hi, List.getElem_mem hk, fun c hc => ?_,
    hcolumn.integer rfl, hname, fun c hc d hd heq => ?_, hnodup⟩
  · obtain ⟨j, hj, rfl⟩ := List.mem_iff_getElem.mp hc
    rw [h.primaryKey_iff (List.getElem?_eq_getElem hj), (hnodup.of_map _).getElem_inj_iff]
  · obtain ⟨f, hf, rfl⟩ := hfield c hc
    obtain ⟨g, hg, rfl⟩ := hfield d hd
    exact hname c hc d hd (by rw [hf, hg, heq])

end Table

namespace Code

/-! ## What the emitted functions make -/

/-- The row that the emitted function makes from a number. -/
def populate? (t : Table) (o : Options) (nonce : Int) : Option Row :=
  t.columns.mapM fun c => columnValue? c ⟨nonce, 0, .epoch⟩ (initialExpression o c)

/-- The expression that a field of a stored row holds after all assignments. -/
def storedExpression (t : Table) (o : Options) (c : Column) : String :=
  ((storedAssignments t o).reverse.lookup c.field).getD (initialExpression o c)

/-- The stored row that the emitted function makes from a number and an identity. -/
def populateStored? (t : Table) (o : Options) (now : Instant) (r : Int × Int) : Option Row :=
  t.columns.mapM fun c => columnValue? c ⟨r.1, r.2, now⟩ (storedExpression t o c)

/-- The payload that the emitted function makes from a number. -/
def noncePayload? (t : Table) (o : Options) (nonce : Int) : Option Fields :=
  ((noncePayload t o).mapM fun p => (nonceExpressionValue? nonce p.2).map fun v => (p.1, v)).map
    Fields.ofList

/-- The name in the payload of a case that is meant to be no column. -/
def unknownName (t : Table) : String :=
  "field_not_in_" ++ t.name

/-- The payload of a case. -/
def Payload.fields? (t : Table) (o : Options) : Payload → Option Fields
  | empty => some .empty
  | made nonce => noncePayload? t o nonce
  | unknown => some ⟨[(unknownName t, .int64 1)]⟩

/-! ## What they make in numbers -/

/-- What a column holds in the stored row of a number and an identity. -/
def storedValue (o : Options) (now : Instant) (r : Int × Int) (c : Column) : Value :=
  if c.primaryKey then identityValue c r.2
  else if o.isAutoTimestamp c then .timestamp now
  else nonceValue c.kind r.1

/-- The stored row of a number and an identity. -/
def storedRow (t : Table) (o : Options) (now : Instant) (r : Int × Int) : Row :=
  t.columns.map (storedValue o now r)

/-- The payload of a number. -/
def nonceFields (t : Table) (o : Options) (nonce : Int) : Fields :=
  ⟨(plainColumns t o).map fun c => (c.name, nonceValue c.kind nonce)⟩

/-- No column that is set to the time has it in a struct. -/
def StampsDirectly (t : Table) (o : Options) : Prop :=
  ∀ c ∈ autoColumns t o, c.isWrapped = false

variable {t : Table} {o : Options} {i : Column} {c : Column}

theorem mem_plainColumns : c ∈ plainColumns t o ↔
    c ∈ t.columns ∧ c.primaryKey = false ∧ o.isAutoTimestamp c = false := by
  simp [plainColumns]

theorem mem_autoColumns : c ∈ autoColumns t o ↔
    c ∈ t.columns ∧ o.isAutoTimestamp c = true := by
  simp [autoColumns]

theorem isAutoTimestamp_iff : o.isAutoTimestamp c = true ↔
    c.primaryKey = false ∧ c.kind = .timestamp ∧ c.name ∈ o.autoTimestamps := by
  simp [Options.isAutoTimestamp, and_assoc]

/-- A key that determines the member leads to what the member has. -/
theorem lookup_map_key {α β γ : Type} [DecidableEq β] [DecidableEq α] {key : α → β}
    {value : α → γ} {xs : List α} {x : α} (h : ∀ y ∈ xs, key y = key x → y = x) :
    (xs.map fun y => (key y, value y)).lookup (key x) =
      if x ∈ xs then some (value x) else none := by
  induction xs with
  | nil => rfl
  | cons y xs ih =>
      rw [List.map_cons, List.lookup_cons]
      by_cases hkey : key y = key x
      · obtain rfl := h y List.mem_cons_self hkey
        simp
      · have hne : x ≠ y := fun heq => hkey (heq ▸ rfl)
        have hbeq : (key x == key y) = false := by simpa using Ne.symm hkey
        simp only [hbeq, ih fun z hz => h z (List.mem_cons_of_mem _ hz), List.mem_cons, hne,
          false_or]

/-- The values of a new row are stored values: the identity is zero, and the time the epoch. -/
theorem columnValue?_initialExpression (hkeyed : t.IsKeyed i) (hc : c ∈ t.columns) (n : Int) :
    columnValue? c ⟨n, 0, .epoch⟩ (initialExpression o c) =
      some (storedValue o .epoch (n, 0) c) := by
  rw [columnValue?, initialExpression, unwrapped?_wrapped, Option.bind_some, storedValue]
  by_cases hkey : c.primaryKey = true
  · rw [if_pos hkey, if_pos hkey]
    obtain rfl := (hkeyed.primaryKey_iff c hc).mp hkey
    have hinteger := hkeyed.isInteger
    cases hkind : c.kind <;> simp_all [Primitive.isInteger, expressionValue?, identityValue,
      Value.integer?]
  · rw [if_neg hkey, if_neg hkey]
    by_cases hauto : o.isAutoTimestamp c = true
    · rw [if_pos hauto, if_pos hauto, (isAutoTimestamp_iff.mp hauto).2.1]
      rfl
    · rw [if_neg hauto, if_neg hauto, expressionValue?_nonceExpression]

theorem populate?_eq (hkeyed : t.IsKeyed i) (n : Int) :
    populate? t o n = some (storedRow t o .epoch (n, 0)) :=
  mapM_eq_some_map fun _ hc => columnValue?_initialExpression hkeyed hc n

/-- After the assignments the identity and the stamped columns hold what was assigned. -/
theorem storedExpression_eq (hkeyed : t.IsKeyed i) (hc : c ∈ t.columns) :
    storedExpression t o c =
      if c.primaryKey then wrapped c "id"
      else if o.isAutoTimestamp c then "t"
      else initialExpression o c := by
  have hassigned : (storedAssignments t o).reverse = ((i :: autoColumns t o).reverse.map
      fun d => (d.field, if d.primaryKey then wrapped d "id" else "t")) := by
    have hkey : i.primaryKey = true := (hkeyed.primaryKey_iff i hkeyed.mem).mpr rfl
    have hauto : (autoColumns t o).map (fun d => (d.field, "t")) = (autoColumns t o).map
        fun d => (d.field, if d.primaryKey then wrapped d "id" else "t") := by
      refine List.map_congr_left fun d hd => ?_
      rw [(isAutoTimestamp_iff.mp (mem_autoColumns.mp hd).2).1, if_neg Bool.false_ne_true]
    rw [storedAssignments, hkeyed.identity, hauto, List.map_reverse]
    simp [hkey]
  have hassigns : ∀ d ∈ (i :: autoColumns t o).reverse, d ∈ t.columns := by
    intro d hd
    rcases List.mem_cons.mp (List.mem_reverse.mp hd) with rfl | hd
    · exact hkeyed.mem
    · exact (mem_autoColumns.mp hd).1
  rw [storedExpression, hassigned,
    lookup_map_key fun d hd heq => hkeyed.field_inj c hc d (hassigns d hd) heq]
  simp only [List.mem_reverse, List.mem_cons, ← hkeyed.primaryKey_iff c hc, mem_autoColumns, hc,
    true_and]
  by_cases hkey : c.primaryKey = true
  · simp [hkey]
  · by_cases hauto : o.isAutoTimestamp c = true <;> simp [hkey, hauto]

theorem columnValue?_storedExpression (hkeyed : t.IsKeyed i) (hstamps : StampsDirectly t o)
    (now : Instant) (r : Int × Int) (hc : c ∈ t.columns) :
    columnValue? c ⟨r.1, r.2, now⟩ (storedExpression t o c) = some (storedValue o now r c) := by
  rw [storedExpression_eq hkeyed hc, storedValue]
  by_cases hkey : c.primaryKey = true
  · rw [if_pos hkey, if_pos hkey, columnValue?, unwrapped?_wrapped, Option.bind_some]
    obtain rfl := (hkeyed.primaryKey_iff c hc).mp hkey
    have hinteger := hkeyed.isInteger
    cases hkind : c.kind <;> simp_all [Primitive.isInteger, expressionValue?, identityValue,
      Value.integer?]
  · rw [if_neg hkey, if_neg hkey]
    by_cases hauto : o.isAutoTimestamp c = true
    · rw [if_pos hauto, if_pos hauto, columnValue?_t]
      have hvia := hstamps c (mem_autoColumns.mpr ⟨hc, hauto⟩)
      unfold Column.isWrapped at hvia
      split
      next hnewtype => simp [hnewtype] at hvia
      · simp [(isAutoTimestamp_iff.mp hauto).2.1, Value.kind]
    · rw [if_neg hauto, if_neg hauto, columnValue?, initialExpression, unwrapped?_wrapped,
        Option.bind_some, if_neg hkey, if_neg hauto, expressionValue?_nonceExpression]

theorem populateStored?_eq (hkeyed : t.IsKeyed i) (hstamps : StampsDirectly t o) (now : Instant)
    (r : Int × Int) : populateStored? t o now r = some (storedRow t o now r) :=
  mapM_eq_some_map fun _ hc => columnValue?_storedExpression hkeyed hstamps now r hc

/-- What is assigned to a stamped column does not have the type of the column if that is a
struct. -/
theorem populateStored?_eq_none (hkeyed : t.IsKeyed i) (hstamps : ¬StampsDirectly t o)
    (now : Instant) (r : Int × Int) : populateStored? t o now r = none := by
  simp only [StampsDirectly, not_forall, Bool.not_eq_false] at hstamps
  obtain ⟨c, hauto, hwrapped⟩ := hstamps
  obtain ⟨hc, hstamp⟩ := mem_autoColumns.mp hauto
  obtain ⟨path, hvia⟩ : ∃ path, c.via = .newtype path := by
    unfold Column.isWrapped at hwrapped
    split at hwrapped
    next path hvia => exact ⟨path, hvia⟩
    · cases hwrapped
  refine mapM_eq_none hc ?_
  rw [storedExpression_eq hkeyed hc, (isAutoTimestamp_iff.mp hstamp).1,
    if_neg Bool.false_ne_true, if_pos hstamp, columnValue?_t, hvia]

theorem nodup_plainColumns (hkeyed : t.IsKeyed i) :
    ((plainColumns t o).map Column.name).Nodup :=
  hkeyed.nodup.sublist (List.filter_sublist.map Column.name)

theorem noncePayload?_eq (hkeyed : t.IsKeyed i) (n : Int) :
    noncePayload? t o n = some (nonceFields t o n) := by
  have hvalues : ((noncePayload t o).mapM fun p =>
        (nonceExpressionValue? n p.2).map fun v => (p.1, v)) =
      some ((plainColumns t o).map fun c => (c.name, nonceValue c.kind n)) := by
    rw [noncePayload, List.mapM_map]
    refine mapM_eq_some_map fun c _ => ?_
    simp only [Function.comp_apply, nonceExpressionValue?_nonceExpression, Option.map_some]
  rw [noncePayload?, hvalues, Option.map_some, Fields.ofList_eq_of_nodup]
  · rfl
  · rw [List.map_map]
    exact nodup_plainColumns hkeyed

/-! ## What the table does with them -/

theorem storedValue_of_mem_plainColumns (hc : c ∈ plainColumns t o) (now : Instant)
    (r : Int × Int) : storedValue o now r c = nonceValue c.kind r.1 := by
  obtain ⟨-, hkey, hauto⟩ := mem_plainColumns.mp hc
  rw [storedValue, hkey, hauto, if_neg Bool.false_ne_true, if_neg Bool.false_ne_true]

theorem valueIn_storedRow (hkeyed : t.IsKeyed i) (hc : c ∈ t.columns) (now : Instant)
    (r : Int × Int) : valueIn t (storedRow t o now r) c.name = some (storedValue o now r c) := by
  rw [valueIn, storedRow, List.zip_map', lookup_map_key fun d hd => hkeyed.name_inj c hc d hd,
    if_pos hc]

theorem zip_storedRow (t : Table) (o : Options) (now : Instant) (r : Int × Int) :
    t.columns.zip (storedRow t o now r) = t.columns.map fun c => (c, storedValue o now r c) := by
  rw [storedRow, ← List.zip_map', List.map_id']

/-- A payload of a number describes the rows whose numbers give equal values in its columns. -/
theorem rowMatches_nonceFields (hkeyed : t.IsKeyed i) (now : Instant) (n : Int) (r : Int × Int) :
    rowMatches t (nonceFields t o n) (storedRow t o now r) =
      (plainColumns t o).all fun c => (nonceValue c.kind r.1).same (nonceValue c.kind n) := by
  rw [rowMatches, nonceFields, List.all_map, Bool.eq_iff_iff, List.all_eq_true, List.all_eq_true]
  refine forall₂_congr fun c hc => ?_
  rw [Function.comp_apply, valueIn_storedRow hkeyed (mem_plainColumns.mp hc).1,
    storedValue_of_mem_plainColumns hc, Option.any_some]

/-- Among truth values a payload describes the rows of all numbers of the same parity. -/
theorem rowMatches_of_bool (hkeyed : t.IsKeyed i) (hbool : ∀ c ∈ plainColumns t o, c.kind = .bool)
    (now : Instant) {n : Int} {r : Int × Int} (hr : r.1 % 2 = n % 2) :
    rowMatches t (nonceFields t o n) (storedRow t o now r) = true := by
  rw [rowMatches_nonceFields hkeyed, List.all_eq_true]
  intro c hc
  rw [hbool c hc, nonceValue, nonceValue, hr]
  exact decide_eq_true rfl

theorem get?_nonceFields (hkeyed : t.IsKeyed i) (hc : c ∈ t.columns) (n : Int) :
    (nonceFields t o n).get? c.name =
      if c ∈ plainColumns t o then some (nonceValue c.kind n) else none :=
  lookup_map_key fun d hd => hkeyed.name_inj c hc d (mem_plainColumns.mp hd).1

/-- A change to the payload of a number makes of a row the row of that number. -/
theorem changed_nonceFields (hkeyed : t.IsKeyed i) (now : Instant) (n : Int) (r : Int × Int) :
    changed t (nonceFields t o n) (storedRow t o now r) = storedRow t o now (n, r.2) := by
  rw [changed, zip_storedRow, List.map_map, storedRow]
  refine List.map_congr_left fun c hc => ?_
  rw [Function.comp_apply, get?_nonceFields hkeyed hc]
  by_cases hplain : c ∈ plainColumns t o
  · rw [if_pos hplain, Option.getD_some, storedValue_of_mem_plainColumns hplain]
  · rw [if_neg hplain, Option.getD_none]
    simp only [mem_plainColumns, hc, true_and, not_and, Bool.not_eq_false] at hplain
    unfold storedValue
    split
    · rfl
    next hkey =>
      rw [if_pos (hplain (by simpa using hkey)), if_pos (hplain (by simpa using hkey))]

/-- The row that is stored for a new row has its number, the next identity and the time. -/
theorem inserted_storedRow (t : Table) (o : Options) (now before : Instant) (n id : Int)
    (next : Nat) :
    inserted t o now (storedRow t o before (n, id)) next = storedRow t o now (n, next) := by
  rw [inserted, zip_storedRow, List.map_map, storedRow]
  refine List.map_congr_left fun c _ => ?_
  simp only [Function.comp_apply, storedValue]
  split
  · rfl
  · split <;> rfl

/-! ## Identities -/

/-- A number that is an identity in all kinds of integers. -/
def IsSmall (n : Int) : Prop :=
  -2147483648 ≤ n ∧ n < 2147483648

instance (n : Int) : Decidable (IsSmall n) :=
  inferInstanceAs (Decidable (_ ∧ _))

theorem number_identityValue (c : Column) {n : Int} (hn : IsSmall n) :
    (identityValue c n).number = n := by
  obtain ⟨hlow, hhigh⟩ := hn
  unfold identityValue Value.integer?
  split
  · exact Int32.toInt_ofInt_of_le (by omega) (by omega)
  · exact Int64.toInt_ofInt_of_le (by omega) (by omega)
  · exact Int64.toInt_ofInt_of_le (by omega) (by omega)

theorem same_identityValue (c : Column) {n m : Int} (hn : IsSmall n) (hm : IsSmall m) :
    (identityValue c n).same (identityValue c m) = (n == m) := by
  have hsame : (identityValue c n).same (identityValue c m) =
      decide (identityValue c n = identityValue c m) := by
    unfold identityValue Value.integer?
    split <;> rfl
  rw [hsame, Bool.eq_iff_iff, decide_eq_true_iff, beq_iff_eq]
  refine ⟨fun heq => ?_, fun heq => heq ▸ rfl⟩
  rw [← number_identityValue c hn, heq, number_identityValue c hm]

theorem rowMatches_identityQuery (hkeyed : t.IsKeyed i) (now : Instant) {n : Int} {r : Int × Int}
    (hn : IsSmall n) (hr : IsSmall r.2) :
    rowMatches t (identityQuery t n) (storedRow t o now r) = (r.2 == n) := by
  have hkey : i.primaryKey = true := (hkeyed.primaryKey_iff i hkeyed.mem).mpr rfl
  rw [rowMatches, identityQuery, hkeyed.identity]
  simp only [List.all_cons, List.all_nil, Bool.and_true, valueIn_storedRow hkeyed hkeyed.mem,
    Option.any_some, storedValue, hkey, if_true]
  exact same_identityValue _ hr hn

theorem rowIdentity_storedRow (hkeyed : t.IsKeyed i) (now : Instant) {r : Int × Int}
    (hr : IsSmall r.2) : rowIdentity t (storedRow t o now r) = r.2 := by
  have hkey : i.primaryKey = true := (hkeyed.primaryKey_iff i hkeyed.mem).mpr rfl
  rw [rowIdentity, Table.identityName, hkeyed.identity, Option.map_some, Option.getD_some,
    valueIn_storedRow hkeyed hkeyed.mem, storedValue, if_pos hkey]
  exact number_identityValue i hr

/-- A stored row equals itself where the values of its number do. -/
theorem sameRow_storedRow (hkeyed : t.IsKeyed i) (now : Instant) {r : Int × Int}
    (hr : ∀ kind, (nonceValue kind r.1).same (nonceValue kind r.1) = true)
    (hsmall : IsSmall r.2) : sameRow (storedRow t o now r) (storedRow t o now r) = true := by
  rw [sameRow, beq_self_eq_true, Bool.true_and, storedRow, List.zip_map', List.all_map,
    List.all_eq_true]
  intro c hc
  simp only [Function.comp_apply, storedValue]
  split
  next hkey =>
    obtain rfl := (hkeyed.primaryKey_iff c hc).mp hkey
    rw [same_identityValue _ hsmall hsmall, beq_self_eq_true]
  · split
    · simp [Value.same]
    · exact hr c.kind

/-! ## Names -/

theorem hasColumn_iff {name : String} :
    t.hasColumn name = true ↔ ∃ c ∈ t.columns, c.name = name := by
  simp [Table.hasColumn]

theorem knows_nonceFields (n : Int) : (tableRules t o).knows (nonceFields t o n) = true := by
  simp only [tableRules, Fields.keys, nonceFields, List.all_map, List.all_eq_true]
  exact fun c hc => hasColumn_iff.mpr ⟨c, (mem_plainColumns.mp hc).1, rfl⟩

theorem knows_identityQuery (hkeyed : t.IsKeyed i) (n : Int) :
    (tableRules t o).knows (identityQuery t n) = true := by
  simp only [tableRules, Fields.keys, identityQuery, hkeyed.identity, List.map_cons, List.map_nil,
    List.all_cons, List.all_nil, Bool.and_true]
  exact hasColumn_iff.mpr ⟨i, hkeyed.mem, rfl⟩

end Code

end Rowsmith
