import Mathlib.Data.List.Nodup
import Mathlib.Data.List.Perm.Subperm
import Mathlib.Data.List.Sort

namespace Usac.Library

/-!
# Tables with unique keys

A table of a relational store with a primary key and one more unique key. The
constraints are fields of the table, so a table that violates one cannot be
built, and an insertion that would violate one is refused.
-/

variable {Row Id Key : Type} {id : Row → Id} {key : Row → Key}

/-- Rows in the order of their insertion, unique under both keys. -/
structure Table (Row Id Key : Type) (id : Row → Id) (key : Row → Key) where
  rows : List Row
  uniqueId : (rows.map id).Nodup
  uniqueKey : (rows.map key).Nodup

namespace Table

/-- The table without rows. -/
def empty : Table Row Id Key id key where
  rows := []
  uniqueId := List.nodup_nil
  uniqueKey := List.nodup_nil

@[simp] theorem empty_rows :
    (empty : Table Row Id Key id key).rows = [] :=
  rfl

variable (table : Table Row Id Key id key)

/-- The rows without those that satisfy the condition. -/
def delete (condition : Row → Bool) : Table Row Id Key id key where
  rows := table.rows.filter fun row => !condition row
  uniqueId := table.uniqueId.sublist (List.filter_sublist.map id)
  uniqueKey := table.uniqueKey.sublist (List.filter_sublist.map key)

@[simp] theorem mem_delete
    {condition : Row → Bool}
    {row : Row} :
    row ∈ (table.delete condition).rows ↔
      row ∈ table.rows ∧ condition row = false := by
  simp [delete]

/-- The rows after a change that leaves both keys. -/
def modify
    (change : Row → Row)
    (keepsId : ∀ row, id (change row) = id row)
    (keepsKey : ∀ row, key (change row) = key row) :
    Table Row Id Key id key where
  rows := table.rows.map change
  uniqueId := by
    rw [List.map_map, show id ∘ change = id from funext keepsId]
    exact table.uniqueId
  uniqueKey := by
    rw [List.map_map, show key ∘ change = key from funext keepsKey]
    exact table.uniqueKey

/-- A table over a set of keys has no more rows than there are keys. -/
theorem length_rows_le
    {keys : List Key}
    (among : ∀ row ∈ table.rows, key row ∈ keys) :
    table.rows.length ≤ keys.length := by
  have subset : table.rows.map key ⊆ keys := by
    intro wanted member
    obtain ⟨row, rowMember, rfl⟩ := List.mem_map.1 member
    exact among row rowMember
  simpa using (List.subperm_of_subset table.uniqueKey subset).length_le

section Id

variable [DecidableEq Id]

/-- The row under a primary key. -/
def selectId (wanted : Id) : Option Row :=
  table.rows.find? fun row => id row = wanted

/-- A primary key selects the row that has it. -/
theorem selectId_eq_some {wanted : Id} {row : Row} :
    table.selectId wanted = some row ↔
      row ∈ table.rows ∧ id row = wanted := by
  constructor
  · intro selected
    exact ⟨List.mem_of_find?_eq_some selected,
      by simpa using List.find?_some selected⟩
  · rintro ⟨member, rfl⟩
    obtain ⟨found, selected⟩ :
        ∃ found, table.selectId (id row) = some found := by
      rw [← Option.isSome_iff_exists, selectId, List.find?_isSome]
      exact ⟨row, member, by simp⟩
    have same : id found = id row := by
      simpa using List.find?_some selected
    have foundMember := List.mem_of_find?_eq_some selected
    rw [selected,
      List.inj_on_of_nodup_map table.uniqueId foundMember member same]

end Id

section Key

variable [DecidableEq Key]

/-- The row under the other key. -/
def selectKey (wanted : Key) : Option Row :=
  table.rows.find? fun row => key row = wanted

/-- A key selects the row that has it. -/
theorem selectKey_eq_some {wanted : Key} {row : Row} :
    table.selectKey wanted = some row ↔
      row ∈ table.rows ∧ key row = wanted := by
  constructor
  · intro selected
    exact ⟨List.mem_of_find?_eq_some selected,
      by simpa using List.find?_some selected⟩
  · rintro ⟨member, rfl⟩
    obtain ⟨found, selected⟩ :
        ∃ found, table.selectKey (key row) = some found := by
      rw [← Option.isSome_iff_exists, selectKey, List.find?_isSome]
      exact ⟨row, member, by simp⟩
    have same : key found = key row := by
      simpa using List.find?_some selected
    have foundMember := List.mem_of_find?_eq_some selected
    rw [selected,
      List.inj_on_of_nodup_map table.uniqueKey foundMember member same]

/-- No row has a key that selects nothing. -/
theorem selectKey_eq_none {wanted : Key} :
    table.selectKey wanted = none ↔ wanted ∉ table.rows.map key := by
  simp [selectKey, List.find?_eq_none]

/-- When a key selects nothing, every row has another one. -/
theorem key_ne_of_selectKey
    {wanted : Key}
    (unselected : table.selectKey wanted = none)
    {row : Row}
    (member : row ∈ table.rows) :
    key row ≠ wanted := by
  rintro rfl
  exact table.selectKey_eq_none.1 unselected (List.mem_map_of_mem member)

end Key

variable [DecidableEq Id] [DecidableEq Key]

/-- The table with one more row, if both keys of the row are new. -/
def insert? (row : Row) : Option (Table Row Id Key id key) :=
  if fresh : id row ∉ table.rows.map id ∧ key row ∉ table.rows.map key then
    some {
      rows := table.rows ++ [row]
      uniqueId := by
        rw [List.map_append, List.map_singleton, List.nodup_append]
        refine ⟨table.uniqueId, List.nodup_singleton _, ?_⟩
        rintro first member second last rfl
        exact fresh.1 (List.mem_singleton.1 last ▸ member)
      uniqueKey := by
        rw [List.map_append, List.map_singleton, List.nodup_append]
        refine ⟨table.uniqueKey, List.nodup_singleton _, ?_⟩
        rintro first member second last rfl
        exact fresh.2 (List.mem_singleton.1 last ▸ member)
    }
  else
    none

/-- An insertion is refused exactly when one of the keys is taken. -/
theorem insert?_eq_none {row : Row} :
    table.insert? row = none ↔
      id row ∈ table.rows.map id ∨ key row ∈ table.rows.map key := by
  unfold insert?
  split_ifs with fresh
  · simpa using fresh
  · simp only [true_iff]
    by_contra neither
    exact fresh (not_or.1 neither)

/-- An insertion adds its row at the end. -/
theorem rows_of_insert?
    {row : Row}
    {next : Table Row Id Key id key}
    (inserted : table.insert? row = some next) :
    next.rows = table.rows ++ [row] := by
  unfold insert? at inserted
  split_ifs at inserted
  rw [← Option.some.inj inserted]

/-- The key of an inserted row is new. -/
theorem key_ne_of_insert?
    {row : Row}
    {next : Table Row Id Key id key}
    (inserted : table.insert? row = some next)
    {old : Row}
    (member : old ∈ table.rows) :
    key old ≠ key row := by
  intro same
  have refused : table.insert? row = none :=
    table.insert?_eq_none.2 (.inr (same ▸ List.mem_map_of_mem member))
  exact nomatch inserted.symm.trans refused

end Table

/-! ## Tables with a row number -/

section RowNumber

variable {key : Row → Key} {rowId : Row → Nat}

namespace Table

variable (table : Table Row Nat Key rowId key)

/-- The number of the next row: one more than the greatest. -/
def nextRowId : Nat :=
  (table.rows.map rowId).foldr max 0 + 1

/-- The next number is above every number of the table. -/
theorem lt_nextRowId {row : Row} (member : row ∈ table.rows) :
    rowId row < table.nextRowId := by
  have bounded :
      ∀ (numbers : List Nat), ∀ number ∈ numbers,
        number ≤ numbers.foldr max 0 := by
    intro numbers
    induction numbers with
    | nil =>
        simp
    | cons first rest inductionHypothesis =>
        intro number numberMember
        rcases List.mem_cons.1 numberMember with rfl | inRest
        · exact Nat.le_max_left _ _
        · exact (inductionHypothesis number inRest).trans
            (Nat.le_max_right _ _)
  exact Nat.lt_succ_of_le
    (bounded _ _ (List.mem_map_of_mem member))

/-- The numbers of the newest rows, up to a limit. -/
def newest (limit : Nat) : List Nat :=
  ((table.rows.map rowId).insertionSort (· ≥ ·)).take limit

/-- The newest rows, up to a limit. -/
def keepNewest (limit : Nat) : Table Row Nat Key rowId key :=
  table.delete fun row => rowId row ∉ table.newest limit

/-- What is kept was there. -/
theorem mem_of_mem_keepNewest
    {limit : Nat}
    {row : Row}
    (member : row ∈ (table.keepNewest limit).rows) :
    row ∈ table.rows :=
  (table.mem_delete.1 member).1

/-- The greatest number is the first of the numbers in descending order. -/
theorem exists_insertionSort_cons
    {numbers : List Nat}
    {greatest : Nat}
    (member : greatest ∈ numbers)
    (among : ∀ number ∈ numbers, number ≤ greatest) :
    ∃ rest, numbers.insertionSort (· ≥ ·) = greatest :: rest := by
  have sorted := List.pairwise_insertionSort (· ≥ ·) numbers
  have same (number : Nat) :
      number ∈ numbers.insertionSort (· ≥ ·) ↔ number ∈ numbers :=
    List.mem_insertionSort _
  generalize numbers.insertionSort (· ≥ ·) = ordered at sorted same ⊢
  rcases ordered with _ | ⟨head, tail⟩
  · exact absurd ((same greatest).2 member) List.not_mem_nil
  · refine ⟨tail, congrArg (· :: tail) ?_⟩
    apply le_antisymm (among head ((same head).1 List.mem_cons_self))
    rcases List.mem_cons.1 ((same greatest).2 member) with rfl | inTail
    · exact le_refl _
    · exact (List.pairwise_cons.1 sorted).1 _ inTail

/-- The newest row is kept. -/
theorem mem_keepNewest_of_newest
    {limit : Nat}
    (positive : 0 < limit)
    {row : Row}
    (member : row ∈ table.rows)
    (last : ∀ other ∈ table.rows, rowId other ≤ rowId row) :
    row ∈ (table.keepNewest limit).rows := by
  refine table.mem_delete.2 ⟨member, ?_⟩
  obtain ⟨rest, sorted⟩ :=
    exists_insertionSort_cons (List.mem_map.2 ⟨row, member, rfl⟩)
      (by simpa using last)
  obtain ⟨limit, rfl⟩ := Nat.exists_eq_add_one.2 positive
  simp [newest, sorted]

/-- A table within the limit is kept as it is. -/
theorem mem_keepNewest_of_length_le
    {limit : Nat}
    (within : table.rows.length ≤ limit)
    {row : Row} :
    row ∈ (table.keepNewest limit).rows ↔ row ∈ table.rows := by
  have all : table.newest limit =
      (table.rows.map rowId).insertionSort (· ≥ ·) := by
    refine List.take_of_length_le ?_
    simpa [List.length_insertionSort] using within
  constructor
  · exact table.mem_of_mem_keepNewest
  · intro member
    refine table.mem_delete.2 ⟨member, ?_⟩
    have listed : rowId row ∈ table.newest limit := by
      rw [all, List.mem_insertionSort]
      exact List.mem_map_of_mem member
    simpa using listed

variable [DecidableEq Key]

/-- The table with a row under a key, which replaces the row that had the key
and takes over its number. -/
def upsert
    (wanted : Key)
    (row : Nat → Row)
    (numbered : ∀ number, rowId (row number) = number)
    (keyed : ∀ number, key (row number) = wanted) :
    Table Row Nat Key rowId key :=
  if taken : ∃ old ∈ table.rows, key old = wanted then
    table.modify (fun old => if key old = wanted then row (rowId old) else old)
      (by
        intro old
        by_cases replaced : key old = wanted <;> simp [replaced, numbered])
      (by
        intro old
        by_cases replaced : key old = wanted <;> simp [replaced, keyed])
  else
    { rows := table.rows ++ [row table.nextRowId]
      uniqueId := by
        rw [List.map_append, List.map_singleton, List.nodup_append]
        refine ⟨table.uniqueId, List.nodup_singleton _, ?_⟩
        rintro first member second last rfl
        obtain ⟨old, oldMember, rfl⟩ := List.mem_map.1 member
        have new := List.mem_singleton.1 last
        rw [numbered] at new
        exact absurd (table.lt_nextRowId oldMember) (by omega)
      uniqueKey := by
        rw [List.map_append, List.map_singleton, List.nodup_append]
        refine ⟨table.uniqueKey, List.nodup_singleton _, ?_⟩
        rintro first member second last rfl
        obtain ⟨old, oldMember, rfl⟩ := List.mem_map.1 member
        have new := List.mem_singleton.1 last
        exact taken ⟨old, oldMember, new.trans (keyed _)⟩ }

section Upsert

variable {wanted : Key} {row : Nat → Row}
  {numbered : ∀ number, rowId (row number) = number}
  {keyed : ∀ number, key (row number) = wanted}

/-- An upsert leaves the rows of other keys and adds one under its own. -/
theorem mem_upsert {member : Row} :
    member ∈ (table.upsert wanted row numbered keyed).rows →
      member ∈ table.rows ∧ key member ≠ wanted ∨
        ∃ number, member = row number := by
  intro inUpsert
  unfold upsert at inUpsert
  split_ifs at inUpsert with taken
  · obtain ⟨old, oldMember, shape⟩ := List.mem_map.1 inUpsert
    by_cases replaced : key old = wanted
    · rw [if_pos replaced] at shape
      exact .inr ⟨rowId old, shape.symm⟩
    · rw [if_neg replaced] at shape
      exact .inl ⟨shape ▸ oldMember, shape ▸ replaced⟩
  · rcases List.mem_append.1 inUpsert with old | new
    · refine .inl ⟨old, fun same => taken ⟨member, old, same⟩⟩
    · exact .inr ⟨table.nextRowId, List.mem_singleton.1 new⟩

/-- After an upsert its key has a row. -/
theorem exists_mem_upsert :
    ∃ number, row number ∈ (table.upsert wanted row numbered keyed).rows := by
  unfold upsert
  split_ifs with taken
  · obtain ⟨old, oldMember, same⟩ := taken
    exact ⟨rowId old, List.mem_map.2 ⟨old, oldMember, if_pos same⟩⟩
  · exact ⟨table.nextRowId, by simp⟩

/-- An upsert keeps the rows of other keys. -/
theorem mem_upsert_of_ne
    {member : Row}
    (old : member ∈ table.rows)
    (other : key member ≠ wanted) :
    member ∈ (table.upsert wanted row numbered keyed).rows := by
  unfold upsert
  split_ifs with taken
  · exact List.mem_map.2 ⟨member, old, if_neg other⟩
  · exact List.mem_append_left _ old

end Upsert

end Table

end RowNumber

end Usac.Library
