import Mathlib.Data.List.Induction
import Usac.Library.Table

namespace Usac.Library

/-!
# The most recent entries

Of a history of entries, the last one under each key, the most recent first.
A bounded list that replaces an entry in its place and drops its first one
when it overflows holds the most recent entries as long as what it drops is
the least recent.
-/

section Entries

variable {Entry Key : Type} [DecidableEq Key] (key : Entry → Key)

/-- One more entry is the most recent, and the only one under its key. -/
def touch (entries : List Entry) (entry : Entry) : List Entry :=
  entry :: entries.filter fun old => key old ≠ key entry

/-- The last entry under each key, the most recent first. -/
def latest (history : List Entry) : List Entry :=
  history.foldl (touch key) []

/-- The most recent entries, up to a limit. -/
def recent (limit : Nat) (history : List Entry) : List Entry :=
  (latest key history).take limit

/-- One more entry takes the place of the one under its key. If there is none
it comes last, and the first one goes when there are too many. -/
def place (limit : Nat) (rows : List Entry) (entry : Entry) : List Entry :=
  if ∃ old ∈ rows, key old = key entry then
    rows.map fun old => if key old = key entry then entry else old
  else
    (rows ++ [entry]).drop (rows.length + 1 - limit)

/-- The rows are the most recent entries of a history. -/
def HoldsRecent
    (limit : Nat)
    (history rows : List Entry) :
    Prop :=
  ∀ entry, entry ∈ rows ↔ entry ∈ recent key limit history

variable {key}

@[simp] theorem latest_concat (history : List Entry) (entry : Entry) :
    latest key (history ++ [entry]) = touch key (latest key history) entry := by
  simp [latest]

/-- There is one entry for each key. -/
theorem nodup_latest (history : List Entry) :
    ((latest key history).map key).Nodup := by
  induction history using List.reverseRecOn with
  | nil => exact List.nodup_nil
  | append_singleton history entry inductionHypothesis =>
      rw [latest_concat, touch, List.map_cons, List.nodup_cons]
      constructor
      · intro member
        obtain ⟨old, present, same⟩ := List.mem_map.1 member
        simpa [same] using (List.mem_filter.1 present).2
      · exact inductionHypothesis.sublist (List.filter_sublist.map key)

/-- The most recent entries have different keys. -/
theorem nodup_recent (limit : Nat) (history : List Entry) :
    ((recent key limit history).map key).Nodup :=
  (nodup_latest history).sublist ((List.take_sublist _ _).map key)

/-- A key that is in front is missing from the front without it. -/
theorem take_filter_of_mem
    {entries : List Entry}
    {wanted : Key}
    (unique : (entries.map key).Nodup)
    {count : Nat}
    (present : ∃ old ∈ entries.take (count + 1), key old = wanted) :
    (entries.filter fun old => key old ≠ wanted).take count =
      (entries.take (count + 1)).filter fun old => key old ≠ wanted := by
  induction entries generalizing count with
  | nil => simp
  | cons first rest inductionHypothesis =>
      obtain ⟨fresh, uniqueRest⟩ := List.nodup_cons.1 unique
      rw [List.take_succ_cons] at present ⊢
      by_cases here : key first = wanted
      · have others : ∀ old ∈ rest, key old ≠ wanted := by
          rintro old member rfl
          exact fresh (here ▸ List.mem_map_of_mem member)
        rw [List.filter_cons_of_neg (by simpa using here),
          List.filter_cons_of_neg (by simpa using here),
          List.filter_eq_self.2 fun old member => by
            simpa using others old member,
          List.filter_eq_self.2 fun old member => by
            simpa using others old (List.mem_of_mem_take member)]
      · obtain ⟨old, member, same⟩ := present
        rcases List.mem_cons.1 member with rfl | later
        · exact absurd same here
        · cases count with
          | zero => cases later
          | succ count =>
              rw [List.filter_cons_of_pos (by simpa using here),
                List.filter_cons_of_pos (by simpa using here),
                List.take_succ_cons,
                inductionHypothesis uniqueRest ⟨old, later, same⟩]

/-- A key that is not in front does not change the front. -/
theorem take_filter_of_not_mem
    {entries : List Entry}
    {wanted : Key}
    {count : Nat}
    (absent : ∀ old ∈ entries.take (count + 1), key old ≠ wanted) :
    (entries.filter fun old => key old ≠ wanted).take count =
      entries.take count := by
  induction entries generalizing count with
  | nil => simp
  | cons first rest inductionHypothesis =>
      rw [List.take_succ_cons] at absent
      have here := absent first List.mem_cons_self
      rw [List.filter_cons_of_pos (by simpa using here)]
      cases count with
      | zero => rfl
      | succ count =>
          rw [List.take_succ_cons, List.take_succ_cons, inductionHypothesis
            fun old member => absent old (List.mem_cons_of_mem _ member)]

/-- What the most recent entries are after one more. -/
theorem recent_concat
    (count : Nat)
    (history : List Entry)
    (entry : Entry) :
    recent key (count + 1) (history ++ [entry]) =
      entry ::
        if ∃ old ∈ recent key (count + 1) history, key old = key entry then
          (recent key (count + 1) history).filter fun old =>
            key old ≠ key entry
        else
          (recent key (count + 1) history).take count := by
  unfold recent
  rw [latest_concat, touch, List.take_succ_cons]
  split_ifs with present
  · rw [take_filter_of_mem (nodup_latest history) present]
  · rw [take_filter_of_not_mem, List.take_take,
      Nat.min_eq_left (Nat.le_succ count)]
    exact fun old member same => present ⟨old, member, same⟩

/-- The last entry but one is among the most recent. -/
theorem mem_recent_second
    {limit : Nat}
    (two : 2 ≤ limit)
    {first second : Entry}
    (other : key first ≠ key second)
    (history : List Entry) :
    first ∈ recent key limit (history ++ [first] ++ [second]) := by
  obtain ⟨limit, rfl⟩ := Nat.exists_eq_add_of_le' two
  rw [recent, latest_concat, latest_concat, touch, touch,
    List.filter_cons_of_pos (by simpa using other), List.take_succ_cons,
    List.take_succ_cons]
  exact List.mem_cons_of_mem _ List.mem_cons_self

/-! ## Bounded lists -/

/-- The rows are a permutation of the most recent entries. -/
theorem HoldsRecent.perm
    {limit : Nat}
    {history rows : List Entry}
    (holds : HoldsRecent key limit history rows)
    (unique : (rows.map key).Nodup) :
    rows.Perm (recent key limit history) :=
  (List.perm_ext_iff_of_nodup unique.of_map
    (nodup_recent limit history).of_map).2 holds

/-- An entry that is placed keeps the limit. -/
theorem length_place_le
    {limit : Nat}
    {rows : List Entry}
    (within : rows.length ≤ limit)
    (entry : Entry) :
    (place key limit rows entry).length ≤ limit := by
  unfold place
  split_ifs with present
  · rwa [List.length_map]
  · rw [List.length_drop, List.length_append, List.length_singleton]
    omega

/-- Entries with different keys are kept in their order. -/
theorem foldl_place_of_nodup
    {limit : Nat}
    {entries : List Entry}
    (unique : (entries.map key).Nodup)
    (within : entries.length ≤ limit) :
    entries.foldl (place key limit) [] = entries := by
  induction entries using List.reverseRecOn with
  | nil => rfl
  | append_singleton entries entry inductionHypothesis =>
      rw [List.map_append, List.map_singleton, List.nodup_append] at unique
      rw [List.length_append, List.length_singleton] at within
      rw [List.foldl_concat, inductionHypothesis unique.1 (by omega), place,
        if_neg, Nat.sub_eq_zero_of_le within, List.drop_zero]
      rintro ⟨old, member, same⟩
      exact unique.2.2 _ (List.mem_map_of_mem member) _
        (List.mem_singleton_self _) same

/-- What is dropped for an entry is the least recent one. -/
def DropsLeastRecent
    (key : Entry → Key)
    (limit : Nat)
    (history rows : List Entry)
    (entry : Entry) :
    Prop :=
  (¬∃ old ∈ rows, key old = key entry) →
    rows.length = limit →
    ∀ first ∈ rows.head?, (recent key limit history).getLast? = some first

/-- The rows stay the most recent entries exactly when what is dropped is the
least recent of them. -/
theorem holdsRecent_place_iff
    {limit : Nat}
    (positive : 0 < limit)
    {history rows : List Entry}
    (unique : (rows.map key).Nodup)
    (within : rows.length ≤ limit)
    (holds : HoldsRecent key limit history rows)
    (entry : Entry) :
    HoldsRecent key limit (history ++ [entry]) (place key limit rows entry) ↔
      DropsLeastRecent key limit history rows entry := by
  obtain ⟨count, rfl⟩ := Nat.exists_eq_add_one.2 positive
  have perm := holds.perm unique
  have uniqueKeys : ((recent key (count + 1) history).map key).Nodup :=
    nodup_recent (count + 1) history
  have uniqueRecent := uniqueKeys.of_map
  have sameKeys :
      (∃ old ∈ rows, key old = key entry) ↔
        ∃ old ∈ recent key (count + 1) history, key old = key entry := by
    simp only [holds _]
  unfold HoldsRecent DropsLeastRecent place
  rw [recent_concat]
  by_cases present : ∃ old ∈ rows, key old = key entry
  · rw [if_pos present, if_pos (sameKeys.1 present)]
    constructor
    · intro _ absent
      exact absurd present absent
    · intro _ other
      rw [List.mem_cons, List.mem_filter, List.mem_map, ← holds]
      constructor
      · rintro ⟨old, member, rfl⟩
        by_cases here : key old = key entry
        · exact .inl (if_pos here)
        · rw [if_neg here]
          exact .inr ⟨member, by simpa using here⟩
      · rintro (rfl | ⟨member, other⟩)
        · obtain ⟨old, oldMember, same⟩ := present
          exact ⟨old, oldMember, if_pos same⟩
        · exact ⟨_, member, if_neg (by simpa using other)⟩
  · rw [if_neg present, if_neg (sameKeys.not.1 present)]
    have members :
        ∀ other, other ∈ rows ↔ other ∈ recent key (count + 1) history :=
      holds
    generalize recent key (count + 1) history = newest at *
    by_cases full : rows.length = count + 1
    · obtain ⟨first, rest, rfl⟩ := List.exists_cons_of_length_eq_add_one full
      obtain ⟨front, last, rfl⟩ : ∃ front last, newest = front ++ [last] := by
        rcases List.eq_nil_or_concat' newest with rfl | shape
        · cases perm.length_eq
        · exact shape
      have length : front.length = count := by
        have same := perm.length_eq
        rw [full, List.length_append, List.length_singleton] at same
        omega
      rw [full, Nat.add_sub_cancel_left, List.cons_append, List.drop_succ_cons,
        List.drop_zero, ← length, List.take_left]
      have distinct : first ∉ rest ∧ first ≠ entry :=
        ⟨(List.nodup_cons.1 unique.of_map).1, fun same =>
          present ⟨first, List.mem_cons_self, congrArg key same⟩⟩
      constructor
      · intro same _ _ head found
        cases found
        rw [List.getLast?_concat]
        by_contra other
        have inFront : first ∈ front := by
          rcases List.mem_append.1 ((members first).1 List.mem_cons_self) with
            member | member
          · exact member
          · exact absurd (congrArg some (List.mem_singleton.1 member).symm)
              other
        rcases List.mem_append.1
            ((same first).2 (List.mem_cons_of_mem _ inFront)) with
          member | member
        · exact distinct.1 member
        · exact distinct.2 (List.mem_singleton.1 member)
      · intro least other
        have shape := least present rfl first rfl
        rw [List.getLast?_concat] at shape
        obtain rfl := Option.some.inj shape
        have rest_perm : rest.Perm front :=
          List.Perm.cons_inv (perm.trans List.perm_append_comm)
        rw [List.mem_append, List.mem_singleton, List.mem_cons,
          rest_perm.mem_iff]
        exact or_comm
    · have all : newest.take count = newest := by
        apply List.take_of_length_le
        rw [← perm.length_eq]
        omega
      rw [all, show rows.length + 1 - (count + 1) = 0 by omega, List.drop_zero]
      constructor
      · intro _ _ length
        exact absurd length full
      · intro _ other
        rw [List.mem_append, List.mem_singleton, List.mem_cons, members]
        exact or_comm

end Entries

/-! ## Tables -/

namespace Table

variable {Row Entry Key : Type} {key : Row → Key} {rowId : Row → Nat}

/-- The rows are numbered in the order of their insertion. -/
def Ascending (table : Table Row Nat Key rowId key) : Prop :=
  table.rows.Pairwise fun first second => rowId first < rowId second

variable {table : Table Row Nat Key rowId key}

/-- The numbers of the newest rows are those at the end. -/
theorem Ascending.newest
    (ascending : table.Ascending)
    (limit : Nat) :
    table.newest limit =
      ((table.rows.map rowId).drop
        ((table.rows.map rowId).length - limit)).reverse := by
  have increasing :
      (table.rows.map rowId).Pairwise (· < ·) :=
    List.pairwise_map.2 ascending
  have decreasing :
      (table.rows.map rowId).reverse.Pairwise (· ≥ ·) :=
    (List.pairwise_reverse.2 increasing).imp Nat.le_of_lt
  have sorted :
      (table.rows.map rowId).insertionSort (· ≥ ·) =
        (table.rows.map rowId).reverse :=
    List.Perm.eq_of_pairwise
      (fun _ _ _ _ first second => Nat.le_antisymm second first)
      (List.pairwise_insertionSort _ _) decreasing
      ((List.perm_insertionSort _ _).trans (List.reverse_perm _).symm)
  rw [Table.newest, sorted, List.take_reverse]

/-- The newest rows are those at the end. -/
theorem Ascending.keepNewest_rows
    (ascending : table.Ascending)
    (limit : Nat) :
    (table.keepNewest limit).rows =
      table.rows.drop (table.rows.length - limit) := by
  have split := List.take_append_drop (table.rows.length - limit) table.rows
  have numbers := ascending.newest limit
  rw [List.length_map, ← List.map_drop] at numbers
  have between := ascending
  unfold Ascending at between
  rw [← split, List.pairwise_append] at between
  show (table.rows.filter fun row => !decide (rowId row ∉ table.newest limit)) =
    _
  rw [numbers]
  conv_lhs => rw [← split]
  rw [List.filter_append, List.filter_eq_nil_iff.2, List.nil_append,
    List.filter_eq_self.2]
  · intro row member
    have listed := List.mem_map_of_mem (f := rowId) member
    simpa using listed
  · intro row member
    have missing :
        rowId row ∉
          ((table.rows.drop (table.rows.length - limit)).map rowId) := by
      intro listed
      obtain ⟨other, otherMember, same⟩ := List.mem_map.1 listed
      exact absurd (between.2.2 row member other otherMember)
        (Nat.not_lt.2 (Nat.le_of_eq same))
    simpa using missing

/-- Pruning keeps the order. -/
theorem Ascending.keepNewest
    (ascending : table.Ascending)
    (limit : Nat) :
    (table.keepNewest limit).Ascending := by
  unfold Ascending
  rw [ascending.keepNewest_rows]
  exact List.Pairwise.sublist (List.drop_sublist _ _) ascending

variable [DecidableEq Key] {wanted : Key} {row : Nat → Row}
  {numbered : ∀ number, rowId (row number) = number}
  {keyed : ∀ number, key (row number) = wanted}

/-- An upsert keeps the order. -/
theorem Ascending.upsert (ascending : table.Ascending) :
    (table.upsert wanted row numbered keyed).Ascending := by
  unfold Ascending Table.upsert
  split_ifs with taken
  · have kept (old : Row) :
        rowId (if key old = wanted then row (rowId old) else old) =
          rowId old := by
      split_ifs
      · exact numbered _
      · rfl
    refine List.pairwise_map.2 (ascending.imp fun below => ?_)
    rwa [kept, kept]
  · refine List.pairwise_append.2 ⟨ascending, List.pairwise_singleton _ _, ?_⟩
    intro old member new last
    rw [List.mem_singleton.1 last, numbered]
    exact table.lt_nextRowId member

/-- A bounded table of upserts, seen without its row numbers, is a bounded
list. -/
theorem Ascending.map_upsert_keepNewest
    {view : Row → Entry}
    {entryKey : Entry → Key}
    {entry : Entry}
    {limit : Nat}
    (ascending : table.Ascending)
    (within : table.rows.length ≤ limit)
    (viewed : ∀ row, entryKey (view row) = key row)
    (entered : ∀ number, view (row number) = entry) :
    ((table.upsert wanted row numbered keyed).keepNewest limit).rows.map view =
      place entryKey limit (table.rows.map view) entry := by
  have named : entryKey entry = wanted := by
    rw [← entered 0, viewed, keyed]
  have present :
      (∃ old ∈ table.rows.map view, entryKey old = entryKey entry) ↔
        ∃ old ∈ table.rows, key old = wanted := by
    rw [named]
    simp [viewed]
  rw [ascending.upsert.keepNewest_rows]
  unfold Table.upsert place
  by_cases taken : ∃ old ∈ table.rows, key old = wanted
  · rw [dif_pos taken, if_pos (present.2 taken)]
    show ((table.rows.map _).drop ((table.rows.map _).length - limit)).map _ = _
    rw [List.length_map, Nat.sub_eq_zero_of_le within, List.drop_zero,
      List.map_map, List.map_map]
    refine List.map_congr_left fun old _ => ?_
    simp only [Function.comp_apply, viewed, named]
    split_ifs
    · exact entered _
    · rfl
  · rw [dif_neg taken, if_neg (present.not.2 taken)]
    show ((table.rows ++ [_]).drop ((table.rows ++ [_]).length - limit)).map _ =
      _
    rw [List.map_drop, List.map_append, List.map_singleton, entered,
      List.length_append, List.length_singleton, List.length_map]

end Table

end Usac.Library
