/-
# A table in memory

What a database is expected to do with the rows of one table. An inserted row gets
the next identity and the current time in its stamped columns. A payload describes the
rows that hold its values; a payload with a name that is no column is refused, and so
is a selection of more rows than a selection may answer.

The operations need only a few questions answered about rows and payloads, which are
the rules of a table. Two tables whose rules give the same answers do the same.
-/

import Rowsmith.Proofs.Code.NonceValues

namespace Rowsmith.Code

/-- How a table searches, changes and compares rows of type `ρ` by payloads of type `φ`. -/
structure Rules (ρ φ : Type) where
  /-- The payload without values. -/
  empty : φ
  isEmpty : φ → Bool
  /-- Whether every name of a payload is a column. -/
  knows : φ → Bool
  /-- Whether a row holds all values of a payload. -/
  describes : φ → ρ → Bool
  /-- A row with the values of a payload in place of its own. -/
  change : φ → ρ → ρ
  /-- The payload of an identity. -/
  withIdentity : Int → φ
  identity : ρ → Int
  same : ρ → ρ → Bool
  /-- Rows that a selection may answer. -/
  maxRows : Nat

/-- The rows of a table, and the identity of the next one. -/
structure Memory (ρ : Type) where
  rows : List ρ := []
  next : Nat := 1

namespace Memory

variable {ρ ρ' φ φ' γ : Type}

/-! ## Operations -/

/-- Inserts a row, which is told its identity. -/
def insert (m : Memory ρ) (row : Nat → ρ) : Memory ρ where
  rows := m.rows ++ [row m.next]
  next := m.next + 1

/-- Inserts a row for each of `given`. -/
def insertAll (store : γ → Nat → ρ) (given : List γ) (m : Memory ρ) : Memory ρ :=
  given.foldl (fun m g => m.insert (store g)) m

/-- The rows that `query` describes. -/
def select (k : Rules ρ φ) (m : Memory ρ) (query : φ) : Option (List ρ) :=
  let found := m.rows.filter (k.describes query)
  if k.knows query && found.length ≤ k.maxRows then some found else none

/-- Changes the rows that `query` describes, and counts them. -/
def update (k : Rules ρ φ) (m : Memory ρ) (updates query : φ) : Option (Nat × Memory ρ) :=
  if k.isEmpty updates then some (0, m)
  else if k.knows updates && k.knows query then
    some ((m.rows.filter (k.describes query)).length,
      { m with rows := m.rows.map fun row =>
          if k.describes query row then k.change updates row else row })
  else none

/-- Removes the rows that `query` describes, and counts them. -/
def delete (k : Rules ρ φ) (m : Memory ρ) (query : φ) : Option (Nat × Memory ρ) :=
  if k.knows query then
    some ((m.rows.filter (k.describes query)).length,
      { m with rows := m.rows.filter fun row => !k.describes query row })
  else none

/-- The row with the identity `n`. -/
def selectById (k : Rules ρ φ) (m : Memory ρ) (n : Int) : Option ρ :=
  match m.select k (k.withIdentity n) with
  | some [row] => some row
  | _ => none

/-- Refuses a change that met no row. -/
def unlessNone (answer : Option (Nat × Memory ρ)) : Option (Memory ρ) :=
  answer.bind fun r => if r.1 = 0 then none else some r.2

/-- Changes the row with the identity `n`. -/
def updateById (k : Rules ρ φ) (m : Memory ρ) (n : Int) (updates : φ) : Option (Memory ρ) :=
  if k.isEmpty updates then some m else unlessNone (m.update k updates (k.withIdentity n))

/-- Removes the row with the identity `n`. -/
def deleteById (k : Rules ρ φ) (m : Memory ρ) (n : Int) : Option (Memory ρ) :=
  unlessNone (m.delete k (k.withIdentity n))

theorem length_update {k : Rules ρ φ} {m : Memory ρ} {updates query : φ} {r : Nat × Memory ρ}
    (h : m.update k updates query = some r) : r.2.rows.length = m.rows.length := by
  unfold update at h
  split at h
  · cases h
    rfl
  · split at h
    · cases h
      exact List.length_map _
    · cases h

theorem select_of_length_le {k : Rules ρ φ} {m : Memory ρ} {query : φ}
    (hknown : k.knows query = true) (hlength : m.rows.length ≤ k.maxRows) :
    m.select k query = some (m.rows.filter (k.describes query)) := by
  have hfound := Nat.le_trans (List.length_filter_le (k.describes query) m.rows) hlength
  simp [select, hknown, hfound]

/-! ## Rows in another form -/

/-- The table with its rows in another form. -/
def map (f : ρ → ρ') (m : Memory ρ) : Memory ρ' where
  rows := m.rows.map f
  next := m.next

theorem map_insertAll (f : ρ → ρ') (store : γ → Nat → ρ) (given : List γ) (m : Memory ρ) :
    (insertAll store given m).map f = insertAll (fun g n => f (store g n)) given (m.map f) := by
  induction given generalizing m with
  | nil => rfl
  | cons g given ih =>
      have hstep : (m.insert (store g)).map f = (m.map f).insert fun n => f (store g n) := by
        simp [map, insert]
      rw [insertAll, List.foldl_cons, ← insertAll, ih, hstep]
      rfl

/-- Under two rules two payloads say the same about the rows of a table in two forms. -/
structure Alike (k : Rules ρ φ) (k' : Rules ρ' φ') (f : ρ → ρ') (m : Memory ρ) (p : φ)
    (p' : φ') : Prop where
  isEmpty : k'.isEmpty p' = k.isEmpty p
  knows : k'.knows p' = k.knows p
  describes : ∀ row ∈ m.rows, k'.describes p' (f row) = k.describes p row

section Alike

variable {k : Rules ρ φ} {k' : Rules ρ' φ'} {f : ρ → ρ'} {m : Memory ρ} {updates query : φ}
  {updates' query' : φ'} {n : Int}

theorem Alike.filter (h : Alike k k' f m query query') :
    (m.map f).rows.filter (k'.describes query') =
      (m.rows.filter (k.describes query)).map f := by
  rw [map, List.filter_map]
  exact congrArg _ (List.filter_congr h.describes)

theorem select_map (h : Alike k k' f m query query')
    (hmax : ∀ n ≤ m.rows.length, n ≤ k'.maxRows ↔ n ≤ k.maxRows) :
    (m.map f).select k' query' = (m.select k query).map (List.map f) := by
  have hfound := hmax _ (List.length_filter_le (k.describes query) m.rows)
  simp only [select, h.filter, h.knows, List.length_map, hfound]
  split <;> rfl

theorem update_map (hupdates : Alike k k' f m updates updates')
    (hchange : ∀ row ∈ m.rows, k'.change updates' (f row) = f (k.change updates row))
    (hquery : Alike k k' f m query query') :
    (m.map f).update k' updates' query' =
      (m.update k updates query).map (Prod.map id (map f)) := by
  have hrows : (m.map f).rows.map (fun row =>
        if k'.describes query' row then k'.change updates' row else row) =
      (m.rows.map fun row =>
        if k.describes query row then k.change updates row else row).map f := by
    simp only [map, List.map_map]
    refine List.map_congr_left fun row hrow => ?_
    simp only [Function.comp_apply, hquery.describes row hrow, hchange row hrow]
    split <;> rfl
  simp only [update, hupdates.isEmpty, hupdates.knows, hquery.knows, hquery.filter, hrows,
    List.length_map]
  split
  · rfl
  · split <;> rfl

theorem delete_map (h : Alike k k' f m query query') :
    (m.map f).delete k' query' = (m.delete k query).map (Prod.map id (map f)) := by
  have hrows : (m.map f).rows.filter (fun row => !k'.describes query' row) =
      (m.rows.filter fun row => !k.describes query row).map f := by
    simp only [map, List.filter_map]
    refine congrArg _ (List.filter_congr fun row hrow => ?_)
    simp only [Function.comp_apply, h.describes row hrow]
  simp only [delete, h.knows, h.filter, hrows, List.length_map]
  split <;> rfl

theorem unlessNone_map (answer : Option (Nat × Memory ρ)) :
    unlessNone (answer.map (Prod.map id (map f))) = (unlessNone answer).map (map f) := by
  cases answer with
  | none => rfl
  | some r =>
      simp only [unlessNone, Option.map_some, Option.bind_some, Prod.map_fst, Prod.map_snd, id_eq]
      split <;> rfl

theorem selectById_map (h : Alike k k' f m (k.withIdentity n) (k'.withIdentity n))
    (hmax : ∀ n ≤ m.rows.length, n ≤ k'.maxRows ↔ n ≤ k.maxRows) :
    (m.map f).selectById k' n = (m.selectById k n).map f := by
  rw [selectById, selectById, select_map h hmax]
  match m.select k (k.withIdentity n) with
  | none => rfl
  | some [] => rfl
  | some [row] => rfl
  | some (first :: second :: rest) => rfl

theorem updateById_map (hupdates : Alike k k' f m updates updates')
    (hchange : ∀ row ∈ m.rows, k'.change updates' (f row) = f (k.change updates row))
    (hid : Alike k k' f m (k.withIdentity n) (k'.withIdentity n)) :
    (m.map f).updateById k' n updates' = (m.updateById k n updates).map (map f) := by
  simp only [updateById, hupdates.isEmpty, update_map hupdates hchange hid, unlessNone_map]
  split <;> rfl

theorem deleteById_map (h : Alike k k' f m (k.withIdentity n) (k'.withIdentity n)) :
    (m.map f).deleteById k' n = (m.deleteById k n).map (map f) := by
  rw [deleteById, deleteById, delete_map h, unlessNone_map]

end Alike

end Memory

/-! ## Rows of values -/

/-- The values of the columns of a table, in order. -/
abbrev Row := List Value

/-- The identity `n` as a value of the column. -/
def identityValue (c : Column) (n : Int) : Value :=
  (Value.integer? c.kind n).getD (.int64 (Int64.ofInt n))

/-- What a row holds in the column `name`. -/
def valueIn (t : Table) (row : Row) (name : String) : Option Value :=
  ((t.columns.map Column.name).zip row).lookup name

/-- Whether a row holds all values of a payload. -/
def rowMatches (t : Table) (query : Fields) (row : Row) : Bool :=
  query.entries.all fun e => (valueIn t row e.1).any fun v => v.same e.2

/-- A row with the values of a payload in place of its own. -/
def changed (t : Table) (updates : Fields) (row : Row) : Row :=
  (t.columns.zip row).map fun x => (updates.get? x.1.name).getD x.2

/-- The payload that describes the row with the identity `n`. -/
def identityQuery (t : Table) (n : Int) : Fields :=
  match t.identity? with
  | some c => ⟨[(c.name, identityValue c n)]⟩
  | none => .empty

/-- The identity of a row. -/
def rowIdentity (t : Table) (row : Row) : Int :=
  ((valueIn t row t.identityName).map Value.number).getD 0

/-- Whether two rows have equal values. -/
def sameRow (a b : Row) : Bool :=
  a.length == b.length && (a.zip b).all fun x => x.1.same x.2

/-- The rules of a table. -/
def tableRules (t : Table) (o : Options) : Rules Row Fields where
  empty := .empty
  isEmpty := Fields.isEmpty
  knows fields := fields.keys.all t.hasColumn
  describes := rowMatches t
  change := changed t
  withIdentity := identityQuery t
  identity := rowIdentity t
  same := sameRow
  maxRows := o.maxRows

/-- The row that is stored for `given` with the identity `n`. -/
def inserted (t : Table) (o : Options) (now : Instant) (given : Row) (n : Nat) : Row :=
  (t.columns.zip given).map fun x =>
    if x.1.primaryKey then identityValue x.1 n
    else if o.isAutoTimestamp x.1 then .timestamp now
    else x.2

end Rowsmith.Code
