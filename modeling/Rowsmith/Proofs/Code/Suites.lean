/-
# Round-trip suites

The emitted tests of a table run each case of each suite and compare with rows that
are stated as numbers. If all rows were numbers, all cases would hold. A table does the
same with its rows where payloads tell the numbers of a case apart, and that takes one
column with other values than truth values. So `suites_hold_iff` asks for such a column,
for a name that is no column where a case is meant to have one, and for selections that
may answer six rows. Besides, the columns need names of their own, and a column that is
set to the time takes it as it is.
-/

import Mathlib.Data.List.Sort
import Rowsmith.Proofs.Code.Positions
import Rowsmith.Proofs.Code.StoredRows
import Rowsmith.Settings.Basic

namespace Rowsmith.Code

variable {α β ρ φ : Type}

/-! ## Running a case -/

namespace Rules

/-- Whether two lists have equal rows in the same order. -/
def sameRows (k : Rules ρ φ) (a b : List ρ) : Bool :=
  a.length == b.length && (a.zip b).all fun x => k.same x.1 x.2

/-- Rows in the order of their identities. -/
def byIdentity (k : Rules ρ φ) (rows : List ρ) : List ρ :=
  rows.insertionSort fun a b => k.identity a ≤ k.identity b

end Rules

/-- Whether all rows of the table are those expected. -/
def Memory.leaves (k : Rules ρ φ) (m : Memory ρ) (expected : List ρ) : Bool :=
  (m.select k k.empty).any fun rows => k.sameRows expected (k.byIdentity rows)

/-- Whether a case accepts what its call answers, which is `none` for an error. `check` tells
whether an answer is right, and `refused` whether an error left all as it has to be. -/
def Scenario.accepts (c : Scenario) (answer : Option α) (check : α → Bool) (refused : Bool) :
    Bool :=
  match answer with
  | some a => !c.expectError && check a
  | none => c.expectError && refused

namespace Suite

/-- Makes the call of a suite and checks its answer, and for a change the rows that are left. -/
def passes (k : Rules ρ φ) (s : Suite) (c : Scenario) (expected : List ρ) (updates query : φ)
    (m : Memory ρ) : Bool :=
  let id := c.id.getD 0
  let count := c.expectedCount.getD 0
  match s with
  | insertAndSelect =>
    c.accepts (m.select k query) (fun rows => k.sameRows expected (k.byIdentity rows)) true
  | selectById => c.accepts (m.selectById k id) (fun row => k.sameRows expected [row]) true
  | update =>
    c.accepts (m.update k updates query) (fun r => count == r.1 && r.2.leaves k expected)
      (m.leaves k expected)
  | updateById =>
    c.accepts (m.updateById k id updates) (fun m => m.leaves k expected) (m.leaves k expected)
  | delete =>
    c.accepts (m.delete k query) (fun r => count == r.1 && r.2.leaves k expected)
      (m.leaves k expected)
  | deleteById =>
    c.accepts (m.deleteById k id) (fun m => m.leaves k expected) (m.leaves k expected)

/-- Whether a case of a suite holds of the table in memory at the time `now`. There is no
table with two columns of one name, and no case with an expression that has no value. -/
def holds? (t : Table) (o : Options) (now : Instant) (s : Suite) (c : Scenario) : Option Bool := do
  guard (t.columns.map Column.name).Nodup
  let given ← c.insert.mapM (populate? t o)
  let expected ← c.expected.mapM (populateStored? t o now)
  let updates ← c.updates.fields? t o
  let query ← c.query.fields? t o
  return s.passes (tableRules t o) c expected updates query
    (Memory.insertAll (inserted t o now) given {})

end Suite

/-! ## Cases in numbers -/

/-- What a case asks of rows that are numbers with identities. -/
inductive NumberQuery where
  | payload (p : Payload)
  | identity (n : Int)
  deriving DecidableEq, Repr

/-- The rules of a table whose rows are numbers with identities. -/
def numberRules (maxRows : Nat) : Rules (Int × Int) NumberQuery where
  empty := .payload .empty
  isEmpty q := q = .payload .empty
  knows q := q ≠ .payload .unknown
  describes
    | .payload .empty, _ => true
    | .payload (.made n), r => r.1 == n
    | .payload .unknown, _ => false
    | .identity n, r => r.2 == n
  change
    | .payload (.made n), r => (n, r.2)
    | _, r => r
  withIdentity := .identity
  identity r := r.2
  same a b := a == b
  maxRows := maxRows

/-- The rows that a case inserts. -/
def Scenario.numbers (c : Scenario) : Memory (Int × Int) :=
  Memory.insertAll (fun n id => (n, (id : Int))) c.insert {}

/-- All cases hold of numbers, also if a selection may answer no more than six rows. -/
theorem passes_numbers : ∀ maxRows ∈ [6, 7], ∀ s ∈ Suite.all, ∀ c ∈ s.scenarios,
    s.passes (numberRules maxRows) c c.expected (.payload c.updates) (.payload c.query)
      c.numbers = true := by
  decide

/-! ### The numbers of cases -/

/-- All kinds, the one with only two values first. -/
def allKinds : List Primitive :=
  [.bool, .int32, .int64, .float32, .float64, .text, .binary, .timestamp]

theorem mem_allKinds (kind : Primitive) : kind ∈ allKinds := by
  cases kind <;> decide

theorem mem_tail_allKinds {kind : Primitive} (h : kind ≠ .bool) : kind ∈ allKinds.tail := by
  cases kind <;> first | exact absurd rfl h | decide

/-- The number of a payload that is made from one. -/
def Payload.number? : Payload → Option Int
  | made n => some n
  | _ => none

/-- What the numbers of a case have to be like for a table to tell them apart. -/
structure Scenario.IsFit (c : Scenario) : Prop where
  /-- The values of a number equal themselves. -/
  same : ∀ r ∈ c.numbers.rows ++ c.expected, ∀ kind ∈ allKinds,
    (nonceValue kind r.1).same (nonceValue kind r.1) = true
  /-- Other values than truth values tell numbers apart. -/
  distinct : ∀ p ∈ [c.updates, c.query], ∀ n ∈ p.number?.toList, ∀ r ∈ c.numbers.rows,
    ∀ kind ∈ allKinds.tail, (nonceValue kind r.1).same (nonceValue kind n) = (r.1 == n)
  small : ∀ r ∈ c.numbers.rows ++ c.expected, IsSmall r.2
  id : IsSmall (c.id.getD 0)
  length : c.numbers.rows.length ≤ 7

theorem Suite.isFit_of_mem {s : Suite} {c : Scenario} (hs : s ∈ Suite.all) (hc : c ∈ s.scenarios) :
    c.IsFit := by
  have hsame : ∀ s ∈ Suite.all, ∀ c ∈ s.scenarios, ∀ r ∈ c.numbers.rows ++ c.expected,
      ∀ kind ∈ allKinds, (nonceValue kind r.1).same (nonceValue kind r.1) = true := by
    decide +kernel
  have hdistinct : ∀ s ∈ Suite.all, ∀ c ∈ s.scenarios, ∀ p ∈ [c.updates, c.query],
      ∀ n ∈ p.number?.toList, ∀ r ∈ c.numbers.rows, ∀ kind ∈ allKinds.tail,
      (nonceValue kind r.1).same (nonceValue kind n) = (r.1 == n) := by
    decide +kernel
  have hsmall : ∀ s ∈ Suite.all, ∀ c ∈ s.scenarios,
      (∀ r ∈ c.numbers.rows ++ c.expected, IsSmall r.2) ∧ IsSmall (c.id.getD 0) ∧
        c.numbers.rows.length ≤ 7 := by
    decide +kernel
  obtain ⟨hrows, hid, hlength⟩ := hsmall s hs c hc
  exact ⟨hsame s hs c hc, hdistinct s hs c hc, hrows, hid, hlength⟩

/-! ## From numbers to rows -/

section Stored

variable {t : Table} {o : Options} {i : Column} {c : Scenario} {now : Instant} {maxRows : Nat}
  {m : Memory (Int × Int)} {rows expected : List (Int × Int)}

/-- The payload of a case on a table whose columns have names of their own. -/
def Payload.fields (t : Table) (o : Options) : Payload → Fields
  | empty => .empty
  | made nonce => nonceFields t o nonce
  | unknown => ⟨[(unknownName t, .int64 1)]⟩

theorem Payload.fields?_eq (hkeyed : t.IsKeyed i) (p : Payload) :
    p.fields? t o = some (p.fields t o) := by
  cases p with
  | empty | unknown => rfl
  | made n => exact noncePayload?_eq hkeyed n

/-- The table tells numbers apart, and knows no column of the name that is meant to be none. -/
structure Separates (t : Table) (o : Options) : Prop where
  exists_ne_bool : ∃ c ∈ plainColumns t o, c.kind ≠ .bool
  not_hasColumn : t.hasColumn (unknownName t) = false

theorem alike_payload (maxRows : Nat) (hkeyed : t.IsKeyed i) (hseparates : Separates t o)
    (hfit : c.IsFit) (now : Instant) {p : Payload} (hp : p ∈ [c.updates, c.query]) :
    Memory.Alike (numberRules maxRows) (tableRules t o) (storedRow t o now) c.numbers (.payload p)
      (p.fields t o) := by
  cases p with
  | empty => exact ⟨rfl, rfl, fun _ _ => rfl⟩
  | unknown =>
      have hnone := hseparates.not_hasColumn
      refine ⟨rfl, ?_, fun r _ => ?_⟩
      · simp [tableRules, Payload.fields, Fields.keys, hnone, numberRules]
      · have hvalue : valueIn t (storedRow t o now r) (unknownName t) = none := by
          rw [valueIn, List.lookup_eq_none_iff]
          intro e he
          obtain ⟨d, hd, hname⟩ := List.mem_map.mp (List.of_mem_zip he).1
          refine bne_iff_ne.mpr fun heq => ?_
          rw [hasColumn_iff.mpr ⟨d, hd, hname.trans heq.symm⟩] at hnone
          cases hnone
        simp [tableRules, rowMatches, Payload.fields, hvalue, numberRules]
  | made n =>
      obtain ⟨d, hd, hkind⟩ := hseparates.exists_ne_bool
      refine ⟨?_, ?_, fun r hr => ?_⟩
      · simp [tableRules, Payload.fields, nonceFields, Fields.isEmpty, List.ne_nil_of_mem hd,
          numberRules]
      · rw [Payload.fields, knows_nonceFields]
        rfl
      · have hdistinct := hfit.distinct (.made n) hp n (by simp [Payload.number?]) r hr
        have hsame := hfit.same r (List.mem_append_left _ hr)
        show rowMatches t (nonceFields t o n) (storedRow t o now r) = (r.1 == n)
        rw [rowMatches_nonceFields hkeyed, Bool.eq_iff_iff, List.all_eq_true, beq_iff_eq]
        constructor
        · intro hall
          simpa using (hdistinct d.kind (mem_tail_allKinds hkind)).symm.trans (hall d hd)
        · rintro rfl e he
          exact hsame e.kind (mem_allKinds e.kind)

theorem alike_identity (maxRows : Nat) (hkeyed : t.IsKeyed i) (hfit : c.IsFit) (o : Options)
    (now : Instant) :
    Memory.Alike (numberRules maxRows) (tableRules t o) (storedRow t o now) c.numbers
      (.identity (c.id.getD 0)) ((tableRules t o).withIdentity (c.id.getD 0)) where
  isEmpty := by simp [tableRules, identityQuery, hkeyed.identity, Fields.isEmpty, numberRules]
  knows := knows_identityQuery hkeyed _
  describes r hr :=
    rowMatches_identityQuery hkeyed now hfit.id (hfit.small r (List.mem_append_left _ hr))

theorem change_payload (maxRows : Nat) (hkeyed : t.IsKeyed i) (hseparates : Separates t o)
    (now : Instant) (p : Payload) (r : Int × Int) :
    (tableRules t o).change (p.fields t o) (storedRow t o now r) =
      storedRow t o now ((numberRules maxRows).change (.payload p) r) := by
  -- a payload with no column in it changes nothing
  have hkept : ∀ fields : Fields, (∀ d ∈ t.columns, fields.get? d.name = none) →
      changed t fields (storedRow t o now r) = storedRow t o now r := by
    intro fields hfields
    rw [changed, zip_storedRow, List.map_map, storedRow]
    refine List.map_congr_left fun d hd => ?_
    rw [Function.comp_apply, hfields d hd, Option.getD_none]
  cases p with
  | made n => exact changed_nonceFields hkeyed now n r
  | empty => exact hkept .empty fun _ _ => rfl
  | unknown =>
      refine hkept _ fun d hd => ?_
      have hne : (d.name == unknownName t) = false := by
        have hnone := hseparates.not_hasColumn
        rw [← Bool.not_eq_true, hasColumn_iff] at hnone
        simpa using fun heq => hnone ⟨d, hd, heq⟩
      simp [Payload.fields, Fields.get?, List.lookup_cons, hne]

/-! ### Rows that are compared -/

theorem eq_of_sameRows (h : (numberRules maxRows).sameRows expected rows = true) :
    expected = rows := by
  simp only [Rules.sameRows, Bool.and_eq_true, beq_iff_eq, List.all_eq_true] at h
  refine List.ext_getElem h.1 fun n hn hn' => ?_
  have hmem : (expected[n], rows[n]) ∈ expected.zip rows := by
    rw [← List.getElem_zip]
    exact List.getElem_mem (by simpa using ⟨hn, hn'⟩)
  simpa [numberRules] using h.2 _ hmem

/-- What the rows of a case have to be like for their stored rows to equal themselves. -/
def AreFit (rows : List (Int × Int)) : Prop :=
  ∀ r ∈ rows, IsSmall r.2 ∧ ∀ kind ∈ allKinds,
    (nonceValue kind r.1).same (nonceValue kind r.1) = true

theorem Scenario.IsFit.areFit_expected (h : c.IsFit) : AreFit c.expected :=
  fun r hr => ⟨h.small r (List.mem_append_right _ hr), h.same r (List.mem_append_right _ hr)⟩

/-- Rows that are those expected as numbers are so as rows of values. -/
theorem sameRows_storedRow (hkeyed : t.IsKeyed i) (hfit : AreFit expected)
    (h : (numberRules maxRows).sameRows expected rows = true) :
    (tableRules t o).sameRows (expected.map (storedRow t o now)) (rows.map (storedRow t o now)) =
      true := by
  obtain rfl := eq_of_sameRows h
  rw [Rules.sameRows, beq_self_eq_true, Bool.true_and, List.zip_map', List.all_map,
    List.all_eq_true]
  intro r hr
  obtain ⟨hsmall, hsame⟩ := hfit r hr
  exact sameRow_storedRow hkeyed now (fun kind => hsame kind (mem_allKinds kind)) hsmall

theorem byIdentity_storedRow (hkeyed : t.IsKeyed i) (hsmall : ∀ r ∈ rows, IsSmall r.2) :
    (tableRules t o).byIdentity (rows.map (storedRow t o now)) =
      ((numberRules maxRows).byIdentity rows).map (storedRow t o now) := by
  refine (List.map_insertionSort _ _ _ _ fun a ha b hb => ?_).symm
  show a.2 ≤ b.2 ↔ rowIdentity t (storedRow t o now a) ≤ rowIdentity t (storedRow t o now b)
  rw [rowIdentity_storedRow hkeyed now (hsmall a ha),
    rowIdentity_storedRow hkeyed now (hsmall b hb)]

theorem sameRows_byIdentity (hkeyed : t.IsKeyed i) (hfit : AreFit expected)
    (h : (numberRules maxRows).sameRows expected ((numberRules maxRows).byIdentity rows) = true) :
    (tableRules t o).sameRows (expected.map (storedRow t o now))
      ((tableRules t o).byIdentity (rows.map (storedRow t o now))) = true := by
  have hsmall : ∀ r ∈ rows, IsSmall r.2 := by
    intro r hr
    have hmem : r ∈ expected := by
      rw [eq_of_sameRows h]
      exact (List.mem_insertionSort _).mpr hr
    exact (hfit r hmem).1
  rw [byIdentity_storedRow hkeyed hsmall]
  exact sameRows_storedRow hkeyed hfit h

theorem select_empty (t : Table) (o : Options) (m : Memory Row) :
    m.select (tableRules t o) (tableRules t o).empty =
      if m.rows.length ≤ o.maxRows then some m.rows else none := by
  have hall : m.rows.filter ((tableRules t o).describes (tableRules t o).empty) = m.rows :=
    List.filter_eq_self.mpr fun _ _ => rfl
  have hknown : (tableRules t o).knows (tableRules t o).empty = true := rfl
  simp only [Memory.select, hall, hknown, Bool.true_and, decide_eq_true_eq]
  rfl

theorem leaves_storedRow (hkeyed : t.IsKeyed i) (hfit : AreFit expected)
    (hmax : maxRows ≤ o.maxRows) (h : m.leaves (numberRules maxRows) expected = true) :
    (m.map (storedRow t o now)).leaves (tableRules t o) (expected.map (storedRow t o now)) =
      true := by
  have hall : m.rows.filter ((numberRules maxRows).describes (numberRules maxRows).empty) =
      m.rows := List.filter_eq_self.mpr fun _ _ => rfl
  simp only [Memory.leaves, Memory.select, hall] at h
  split at h
  next hfound =>
    have hlength : m.rows.length ≤ o.maxRows := by
      simp only [Bool.and_eq_true, decide_eq_true_eq] at hfound
      exact hfound.2.trans hmax
    rw [Memory.leaves, select_empty, if_pos (by simpa [Memory.map] using hlength),
      Option.any_some]
    exact sameRows_byIdentity hkeyed hfit h
  · cases h

end Stored

theorem Scenario.accepts_iff {c : Scenario} {answer : Option α} {check : α → Bool}
    {refused : Bool} : c.accepts answer check refused = true ↔
      (∃ a, answer = some a ∧ c.expectError = false ∧ check a = true) ∨
        (answer = none ∧ c.expectError = true ∧ refused = true) := by
  cases answer <;> simp [accepts]

theorem Scenario.accepts_map {c : Scenario} {answer : Option α} {f : α → β} {check : α → Bool}
    {check' : β → Bool} {refused refused' : Bool} (h : c.accepts answer check refused = true)
    (hcheck : ∀ a, check a = true → check' (f a) = true)
    (hrefused : refused = true → refused' = true) :
    c.accepts (answer.map f) check' refused' = true := by
  rcases accepts_iff.mp h with ⟨a, rfl, hexpects, hchecked⟩ | ⟨rfl, hexpects, hleft⟩
  · exact accepts_iff.mpr (.inl ⟨f a, rfl, hexpects, hcheck a hchecked⟩)
  · exact accepts_iff.mpr (.inr ⟨rfl, hexpects, hrefused hleft⟩)

namespace Suite

variable {t : Table} {o : Options} {i : Column} {s : Suite} {c : Scenario} {now : Instant}

/-- A case that holds of numbers holds of the table, whose answers are those for numbers. -/
theorem passes_storedRow (hkeyed : t.IsKeyed i) (hseparates : Separates t o) (hfit : c.IsFit)
    (h : s.passes (numberRules (min o.maxRows 7)) c c.expected (.payload c.updates)
      (.payload c.query) c.numbers = true) :
    s.passes (tableRules t o) c (c.expected.map (storedRow t o now)) (c.updates.fields t o)
      (c.query.fields t o) (c.numbers.map (storedRow t o now)) = true := by
  have hexpected := hfit.areFit_expected
  have hupdates := alike_payload (min o.maxRows 7) hkeyed hseparates hfit now
    (p := c.updates) (by simp)
  have hquery := alike_payload (min o.maxRows 7) hkeyed hseparates hfit now
    (p := c.query) (by simp)
  have hid := alike_identity (min o.maxRows 7) hkeyed hfit o now
  have hchange := fun r (_ : r ∈ c.numbers.rows) =>
    change_payload (min o.maxRows 7) hkeyed hseparates now c.updates r
  have hmax : ∀ n ≤ c.numbers.rows.length,
      n ≤ (tableRules t o).maxRows ↔ n ≤ (numberRules (min o.maxRows 7)).maxRows := by
    have hlength := hfit.length
    simp only [tableRules, numberRules]
    omega
  have hleaves : ∀ m : Memory (Int × Int),
      m.leaves (numberRules (min o.maxRows 7)) c.expected = true →
        (m.map (storedRow t o now)).leaves (tableRules t o)
          (c.expected.map (storedRow t o now)) = true :=
    fun m hm => leaves_storedRow hkeyed hexpected (Nat.min_le_left _ _) hm
  have hcounted : ∀ r : Nat × Memory (Int × Int),
      (c.expectedCount.getD 0 == r.1 &&
        r.2.leaves (numberRules (min o.maxRows 7)) c.expected) = true →
      (c.expectedCount.getD 0 == r.1 && (r.2.map (storedRow t o now)).leaves (tableRules t o)
        (c.expected.map (storedRow t o now))) = true := by
    intro r hr
    rw [Bool.and_eq_true] at hr ⊢
    exact ⟨hr.1, hleaves r.2 hr.2⟩
  cases s with
  | insertAndSelect =>
      rw [passes, Memory.select_map hquery hmax]
      exact Scenario.accepts_map h (fun _ hrows => sameRows_byIdentity hkeyed hexpected hrows) id
  | selectById =>
      rw [passes, Memory.selectById_map hid hmax]
      exact Scenario.accepts_map h (fun _ hrow => sameRows_storedRow hkeyed hexpected hrow) id
  | update =>
      rw [passes, Memory.update_map hupdates hchange hquery]
      exact Scenario.accepts_map h hcounted (hleaves _)
  | updateById =>
      rw [passes, Memory.updateById_map hupdates hchange hid]
      exact Scenario.accepts_map h hleaves (hleaves _)
  | delete =>
      rw [passes, Memory.delete_map hquery]
      exact Scenario.accepts_map h hcounted (hleaves _)
  | deleteById =>
      rw [passes, Memory.deleteById_map hid]
      exact Scenario.accepts_map h hleaves (hleaves _)

/-- The rows that a case inserts are stored as rows of its numbers. -/
theorem insertAll_populated (t : Table) (o : Options) (now : Instant) (c : Scenario) :
    Memory.insertAll (inserted t o now) (c.insert.map fun n => storedRow t o .epoch (n, 0)) {} =
      c.numbers.map (storedRow t o now) := by
  have hstored : ∀ n : Int, inserted t o now (storedRow t o .epoch (n, 0)) =
      fun next : Nat => storedRow t o now (n, next) :=
    fun n => funext fun next => inserted_storedRow t o now .epoch n 0 next
  rw [Scenario.numbers, Memory.map_insertAll, Memory.insertAll, List.foldl_map]
  simp only [hstored]
  rfl

/-- Running a case on a table with an identity whose stamped columns take the time as it is. -/
theorem holds?_eq (hkeyed : t.IsKeyed i) (hstamps : StampsDirectly t o) (now : Instant)
    (s : Suite) (c : Scenario) :
    s.holds? t o now c = some (s.passes (tableRules t o) c (c.expected.map (storedRow t o now))
      (c.updates.fields t o) (c.query.fields t o) (c.numbers.map (storedRow t o now))) := by
  have hgiven : c.insert.mapM (populate? t o) =
      some (c.insert.map fun n => storedRow t o .epoch (n, 0)) :=
    mapM_eq_some_map fun n _ => populate?_eq hkeyed n
  have hexpected : c.expected.mapM (populateStored? t o now) =
      some (c.expected.map (storedRow t o now)) :=
    mapM_eq_some_map fun r _ => populateStored?_eq hkeyed hstamps now r
  rw [holds?, hgiven, hexpected, Payload.fields?_eq hkeyed, Payload.fields?_eq hkeyed,
    ← insertAll_populated]
  simp [guard, hkeyed.nodup]

/-- No case holds of a table with two columns of one name. -/
theorem nodup_of_holds? (h : s.holds? t o now c = some true) :
    (t.columns.map Column.name).Nodup := by
  by_contra hnodup
  simp [holds?, guard, hnodup] at h

/-- No case with rows to compare holds if what is assigned to a stamped column is no value
for it. -/
theorem stampsDirectly_of_holds? (hkeyed : t.IsKeyed i) (hexpected : c.expected ≠ [])
    (h : s.holds? t o now c = some true) : StampsDirectly t o := by
  by_contra hstamps
  obtain ⟨r, hr⟩ := List.exists_mem_of_ne_nil _ hexpected
  have hnone : c.expected.mapM (populateStored? t o now) = none :=
    mapM_eq_none hr (populateStored?_eq_none hkeyed hstamps now r)
  have hgiven : c.insert.mapM (populate? t o) =
      some (c.insert.map fun n => storedRow t o .epoch (n, 0)) :=
    mapM_eq_some_map fun n _ => populate?_eq hkeyed n
  rw [holds?, hgiven, hnone] at h
  simp [guard, hkeyed.nodup] at h

/-! ## What the suites ask of a table -/

theorem length_le_of_leaves {m : Memory Row} {expected : List Row}
    (h : m.leaves (tableRules t o) expected = true) : m.rows.length ≤ o.maxRows := by
  rw [Memory.leaves, select_empty] at h
  split at h
  · assumption
  · cases h

/-- After a change to six rows the rows that are left are selected, whether it succeeds or not. -/
theorem six_le_maxRows (hkeyed : t.IsKeyed i) (hstamps : StampsDirectly t o)
    (h : ∀ c ∈ update.scenarios, update.holds? t o now c = some true) : 6 ≤ o.maxRows := by
  have hcase := h
    { name := "update records with query"
      insert := [123, 125, 124, 125, 126, 125]
      updates := .made 999
      query := .made 125
      expectedCount := some 3
      expected := [(123, 1), (999, 2), (124, 3), (999, 4), (126, 5), (999, 6)] } (by decide)
  rw [holds?_eq hkeyed hstamps, Option.some.injEq, passes, Scenario.accepts_iff] at hcase
  rcases hcase with ⟨r, hupdate, -, hleft⟩ | ⟨-, -, hleft⟩
  · have hlength := length_le_of_leaves (Bool.and_eq_true_iff.mp hleft).2
    rw [Memory.length_update hupdate] at hlength
    exact hlength
  · exact length_le_of_leaves hleft

/-- A name that is a column is not refused. -/
theorem not_hasColumn_of_holds? (hkeyed : t.IsKeyed i) (hstamps : StampsDirectly t o)
    (hmax : 1 ≤ o.maxRows)
    (h : ∀ c ∈ insertAndSelect.scenarios, insertAndSelect.holds? t o now c = some true) :
    t.hasColumn (unknownName t) = false := by
  have hcase := h
    { name := "select query field which is not in data model returns error"
      insert := [1]
      query := .unknown
      expectError := true } (by decide)
  rw [holds?_eq hkeyed hstamps, Option.some.injEq, passes, Scenario.accepts_iff] at hcase
  rcases hcase with ⟨-, -, hexpects, -⟩ | ⟨hselect, -, -⟩
  · cases hexpects
  · by_contra hcolumn
    have hknown : (tableRules t o).knows (Payload.unknown.fields t o) = true := by
      simpa [tableRules, Payload.fields, Fields.keys] using hcolumn
    cases hselect.symm.trans (Memory.select_of_length_le hknown hmax)

/-- Among truth values a payload of an odd number describes the rows of all odd numbers. -/
theorem exists_ne_bool_of_holds? (hkeyed : t.IsKeyed i) (hstamps : StampsDirectly t o)
    (hmax : 5 ≤ o.maxRows)
    (h : ∀ c ∈ insertAndSelect.scenarios, insertAndSelect.holds? t o now c = some true) :
    ∃ c ∈ plainColumns t o, c.kind ≠ .bool := by
  by_contra! hbool
  have hcase := h
    { name := "insert many and select with query"
      insert := [22, 45, 45, 1, 45]
      query := .made 45
      expected := [(45, 2), (45, 3), (45, 5)] } (by decide)
  rw [holds?_eq hkeyed hstamps, Option.some.injEq, passes, Scenario.accepts_iff] at hcase
  rcases hcase with ⟨found, hselect, -, hsame⟩ | ⟨-, hexpects, -⟩
  · have hfound := Option.some.inj
      (hselect.symm.trans (Memory.select_of_length_le (knows_nonceFields 45) hmax))
    -- three rows are expected, and four of the five are found
    have hlength : 3 = found.length := by
      simp only [Rules.sameRows, Rules.byIdentity, List.length_map, List.length_insertionSort,
        Bool.and_eq_true, beq_iff_eq] at hsame
      exact hsame.1
    have hodd : ∀ r ∈ ([(45, 2), (45, 3), (1, 4), (45, 5)] : List (Int × Int)),
        r.1 % 2 = 45 % 2 := by decide
    have hkept := List.filter_eq_self.mpr
      (List.forall_mem_map.mpr fun r hr => rowMatches_of_bool hkeyed hbool now (hodd r hr))
    have hfour : 4 ≤ found.length := by
      have hsublist := (List.sublist_cons_self (storedRow t o now (22, 1))
        ([(45, 2), (45, 3), (1, 4), (45, 5)].map (storedRow t o now))).filter
          (rowMatches t (nonceFields t o 45))
      rw [hkept] at hsublist
      rw [hfound]
      exact hsublist.length_le
    omega
  · cases hexpects

end Suite

/-- The suites hold of the table in memory exactly if the columns have names of their own, a
stamped column takes the time as it is, the payload of a number tells it from all other
numbers, the name that is meant to be no column is none, and a selection may answer six
rows. -/
theorem suites_hold_iff {decls : DeclSet} {textBound : Nat} {entity : Decl} {t : Table}
    (o : Options) (now : Instant) (h : Table.compile decls textBound entity = .ok t) :
    (∀ s ∈ Suite.all, ∀ c ∈ s.scenarios, s.holds? t o now c = some true) ↔
      (t.columns.map Column.name).Nodup ∧ StampsDirectly t o ∧ Separates t o ∧ 6 ≤ o.maxRows := by
  obtain ⟨fields, marked, k, -, htable⟩ := Table.compile_eq_ok_iff.mp h
  constructor
  · intro hall
    have hselects := hall .insertAndSelect (by decide)
    have hone := hselects ⟨"insert one and select", [11], none, .empty, .empty, none, [(11, 1)],
      false⟩ (by decide)
    have hnodup := Suite.nodup_of_holds? hone
    obtain ⟨i, hkeyed⟩ := htable.exists_isKeyed hnodup
    have hstamps := Suite.stampsDirectly_of_holds? hkeyed (by simp) hone
    have hmax := Suite.six_le_maxRows hkeyed hstamps (hall .update (by decide))
    exact ⟨hnodup, hstamps,
      ⟨Suite.exists_ne_bool_of_holds? hkeyed hstamps (by omega) hselects,
        Suite.not_hasColumn_of_holds? hkeyed hstamps (by omega) hselects⟩, hmax⟩
  · rintro ⟨hnodup, hstamps, hseparates, hmax⟩ s hs c hc
    obtain ⟨i, hkeyed⟩ := htable.exists_isKeyed hnodup
    have hlimit : min o.maxRows 7 ∈ [6, 7] := by
      simp only [List.mem_cons, List.not_mem_nil, or_false]
      omega
    rw [Suite.holds?_eq hkeyed hstamps, Suite.passes_storedRow hkeyed hseparates
      (Suite.isFit_of_mem hs hc) (passes_numbers _ hlimit s hs c hc)]

/-- The suites hold of the parcels. -/
theorem suites_hold_parcel :
    Table.compile parcelDecls 255 parcel = .ok parcelTable ∧
      ∀ s ∈ Suite.all, ∀ c ∈ s.scenarios, s.holds? parcelTable {} .epoch c = some true := by
  have hcompile : Table.compile parcelDecls 255 parcel = .ok parcelTable := by rfl
  have hstamps : StampsDirectly parcelTable {} := by
    unfold StampsDirectly
    decide
  exact ⟨hcompile, (suites_hold_iff {} .epoch hcompile).mpr
    ⟨by decide, hstamps, ⟨by decide, by decide⟩, by decide⟩⟩

/-- An entity with a field of the name that the cases take for none. -/
def clash : Decl where
  path := ⟨"app", "Clash"⟩
  kind := .struct
    [ ⟨"id", .primitive .int64, "i64", none, false⟩,
      ⟨"field_not_in_clash", .primitive .int64, "i64", none, false⟩ ] true

/-- Its table. -/
def clashTable : Table where
  entity := ⟨"app", "Clash"⟩
  name := "clash"
  columns :=
    [ ⟨"id", "id", .bigInt, .int64, .direct, true, true⟩,
      ⟨"field_not_in_clash", "field_not_in_clash", .bigInt, .int64, .direct, false, false⟩ ]

/-- An entity that holds a truth value. -/
def switch : Decl where
  path := ⟨"app", "Switch"⟩
  kind := .struct
    [ ⟨"id", .primitive .int64, "i64", none, false⟩,
      ⟨"isOn", .primitive .bool, "bool", none, false⟩ ] true

/-- Its table. -/
def switchTable : Table where
  entity := ⟨"app", "Switch"⟩
  name := "switch"
  columns :=
    [ ⟨"id", "id", .bigInt, .int64, .direct, true, true⟩,
      ⟨"is_on", "isOn", .bit, .bool, .direct, false, false⟩ ]

/-- Settings that ask for tests are accepted, and so are both entities. A selection by the name
that is meant to be no column succeeds in the one table, and in the other a selection by the
payload of a number also finds rows of other numbers. -/
theorem suites_fail_clash_switch :
    ({} : Settings).validate = .ok () ∧ ({} : Settings).options = .ok { tests := true } ∧
      Table.compile .empty 255 clash = .ok clashTable ∧
      (∃ c ∈ Suite.insertAndSelect.scenarios, c.query = .unknown ∧
        Suite.insertAndSelect.holds? clashTable {} .epoch c = some false) ∧
      Table.compile .empty 255 switch = .ok switchTable ∧
      ∃ c ∈ Suite.insertAndSelect.scenarios, c.query = .made 45 ∧
        Suite.insertAndSelect.holds? switchTable {} .epoch c = some false := by
  exact ⟨by decide +kernel, by decide +kernel, by rfl, by decide +kernel, by rfl, by decide +kernel⟩

end Rowsmith.Code
