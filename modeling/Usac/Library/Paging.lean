import Mathlib.Data.List.Sort
import Mathlib.Order.Basic
import Mathlib.Order.MinMax

namespace Usac.Library

/-!
# Pages of a changing table

A reader asks for the rows above a cursor, a limited number at a time, and goes
on from the last row of a page until a page is the last one. Between two pages
the table may change in any way. What the pages of such a walk have in common is
their order: each begins above the cursor and the cursor only grows, so no row
comes twice, and a row that is there at every page is met by exactly one.
-/

variable {Row Key : Type*}

/-! ## One page -/

/-- The rows of a page and the cursor of the next one. -/
structure Page (Row Key : Type*) where
  rows : List Row
  next : Option Key
  deriving DecidableEq

section OnePage

variable (key : Row → Key)

/-- A page of the rows above a cursor: all of them, or those up to a row that
another one follows. -/
inductive Shows (above : List Row) : Page Row Key → Prop where
  | last : Shows above ⟨above, none⟩
  | more
      (front : List Row)
      (final : Row)
      (rest : List Row)
      (split : above = front ++ final :: rest) :
      Shows above ⟨front ++ [final], some (key final)⟩

/-- The rows of a page are among those above the cursor. -/
theorem Shows.sublist
    {key : Row → Key}
    {above : List Row}
    {shown : Page Row Key}
    (shows : Shows key above shown) :
    shown.rows.Sublist above := by
  cases shows with
  | last => exact List.Sublist.refl _
  | more front final rest split =>
      rw [List.append_cons] at split
      rw [split]
      exact List.sublist_append_left _ _

variable [LinearOrder Key]

/-- The rows above a cursor. -/
def beyond (cursor : Key) (rows : List Row) : List Row :=
  rows.filter fun row => cursor < key row

/-- Up to `limit` of the rows above the cursor. One more row is looked at, to
see whether there is another page. -/
def page (limit : Nat) (cursor : Key) (rows : List Row) : Page Row Key :=
  let seen := (beyond key cursor rows).take (limit + 1)
  let shown := seen.take limit
  { rows := shown
    next := if limit < seen.length then shown.getLast?.map key else none }

/-- The keys of a table grow. -/
def Ascending (rows : List Row) : Prop :=
  rows.Pairwise (key · < key ·)

variable {key} {limit : Nat} {cursor : Key} {rows : List Row}

/-- Every row above a cursor. -/
theorem mem_beyond {row : Row} :
    row ∈ beyond key cursor rows ↔ row ∈ rows ∧ cursor < key row := by
  simp [beyond]

/-- A page with room for a row is one of the two. -/
theorem page_shows (positive : 0 < limit) :
    Shows key (beyond key cursor rows) (page key limit cursor rows) := by
  generalize above : beyond key cursor rows = seen
  simp only [page, above]
  by_cases more : limit < seen.length
  · have looked : limit < (seen.take (limit + 1)).length := by
      rw [List.length_take]
      exact lt_min (Nat.lt_succ_self limit) more
    have room : (seen.take limit).length ≠ 0 := by
      rw [List.length_take]
      omega
    obtain ⟨front, final, shown⟩ :=
      (List.eq_nil_or_concat' (seen.take limit)).resolve_left
        fun none_ => room (List.length_eq_zero_iff.2 none_)
    have split : seen = front ++ final :: seen.drop limit := by
      rw [List.append_cons, ← shown, List.take_append_drop]
    rw [if_pos looked, List.take_take, Nat.min_eq_left (Nat.le_succ limit),
      shown, List.getLast?_concat, Option.map_some]
    exact .more front final _ split
  · have whole : seen.length ≤ limit := not_lt.1 more
    have seenAll : seen.take (limit + 1) = seen :=
      List.take_of_length_le (by omega)
    rw [seenAll, if_neg more, List.take_of_length_le whole]
    exact .last

/-- The next cursor is the greatest key of a page. -/
theorem Shows.next_max
    {above : List Row}
    {shown : Page Row Key}
    {next : Key}
    (shows : Shows key above shown)
    (ascending : Ascending key above)
    (more : shown.next = some next) :
    (∃ row ∈ shown.rows, key row = next) ∧
      ∀ row ∈ shown.rows, key row ≤ next := by
  cases shows with
  | last => cases more
  | more front final rest split =>
      obtain rfl : key final = next := Option.some.inj more
      rw [split] at ascending
      obtain ⟨-, -, across⟩ := List.pairwise_append.1 ascending
      refine ⟨⟨final, by simp, rfl⟩, ?_⟩
      intro row member
      rcases List.mem_append.1 member with before | last
      · exact (across row before final List.mem_cons_self).le
      · rw [List.mem_singleton.1 last]

/-- A page leaves out no row up to the next cursor. -/
theorem Shows.mem
    {above : List Row}
    {shown : Page Row Key}
    (shows : Shows key above shown)
    (ascending : Ascending key above)
    {row : Row}
    (member : row ∈ above)
    (upTo : ∀ next ∈ shown.next, key row ≤ next) :
    row ∈ shown.rows := by
  cases shows with
  | last => exact member
  | more front final rest split =>
      have upTo : key row ≤ key final := upTo _ rfl
      rw [split] at ascending member
      obtain ⟨-, tail, -⟩ := List.pairwise_append.1 ascending
      have after := (List.pairwise_cons.1 tail).1
      rcases List.mem_append.1 member with before | later
      · exact List.mem_append_left _ before
      · rcases List.mem_cons.1 later with rfl | inRest
        · simp
        · exact absurd (after row inRest) (not_lt.2 upTo)

end OnePage

variable [LinearOrder Key]

/-! ## A walk -/

/-- A walk from a cursor: the table at each page, the pages, and where the walk
goes on. -/
inductive Walk (key : Row → Key) (limit : Nat) (start : Key) :
    List (List Row) → List (List Row) → Option Key → Prop where
  | starts : Walk key limit start [] [] (some start)
  | reads
      {tables pages : List (List Row)}
      {cursor : Key}
      (walk : Walk key limit start tables pages (some cursor))
      (rows : List Row) :
      Walk key limit start (tables ++ [rows])
        (pages ++ [(page key limit cursor rows).rows])
        (page key limit cursor rows).next

namespace Walk

variable {key : Row → Key} {limit : Nat} {start : Key}
  {tables pages : List (List Row)} {next : Option Key}

/-- What a walk has met, in its order. -/
structure Met (key : Row → Key) (start : Key) (pages : List (List Row))
    (next : Option Key) : Prop where
  ascending : Ascending key pages.flatten
  above : ∀ row ∈ pages.flatten, start < key row
  upTo :
    ∀ cursor ∈ next,
      start ≤ cursor ∧ ∀ row ∈ pages.flatten, key row ≤ cursor

/-- The pages of a walk ascend from its start to its cursor. -/
theorem met
    (walk : Walk key limit start tables pages next)
    (positive : 0 < limit)
    (sorted : ∀ rows ∈ tables, Ascending key rows) :
    Met key start pages next := by
  induction walk with
  | starts =>
      refine ⟨List.Pairwise.nil, by simp, ?_⟩
      rintro cursor ⟨⟩
      exact ⟨le_rfl, by simp⟩
  | @reads tables pages cursor walk rows inductionHypothesis =>
      obtain ⟨ascending, above, upTo⟩ :=
        inductionHypothesis fun table member =>
          sorted table (List.mem_append_left _ member)
      obtain ⟨start_le, met⟩ := upTo cursor rfl
      have shows :
          Shows key (beyond key cursor rows) (page key limit cursor rows) :=
        page_shows positive
      have order : Ascending key (beyond key cursor rows) :=
        (sorted rows (by simp)).sublist List.filter_sublist
      have after :
          ∀ row ∈ (page key limit cursor rows).rows, cursor < key row :=
        fun row member => (mem_beyond.1 (shows.sublist.subset member)).2
      have flat :
          (pages ++ [(page key limit cursor rows).rows]).flatten =
            pages.flatten ++ (page key limit cursor rows).rows := by
        simp
      constructor <;> rw [flat]
      · refine List.pairwise_append.2
          ⟨ascending, order.sublist shows.sublist, ?_⟩
        intro old before new now
        exact (met old before).trans_lt (after new now)
      · intro row member
        rcases List.mem_append.1 member with before | now
        · exact above row before
        · exact start_le.trans_lt (after row now)
      · intro further more
        obtain ⟨⟨final, shown, rfl⟩, greatest⟩ := shows.next_max order more
        have grows : cursor < key final := after final shown
        refine ⟨start_le.trans grows.le, ?_⟩
        intro row member
        rcases List.mem_append.1 member with before | now
        · exact (met row before).trans grows.le
        · exact greatest row now

/-- A key that is in the table at every page has been met, unless the walk has
not come as far. -/
theorem complete
    (walk : Walk key limit start tables pages next)
    (positive : 0 < limit)
    (sorted : ∀ rows ∈ tables, Ascending key rows)
    {wanted : Key}
    (above : start < wanted)
    (throughout : ∀ rows ∈ tables, ∃ row ∈ rows, key row = wanted)
    (reached : ∀ cursor ∈ next, wanted ≤ cursor) :
    ∃ row ∈ pages.flatten, key row = wanted := by
  induction walk with
  | starts =>
      exact absurd above (not_lt.2 (reached start rfl))
  | @reads tables pages cursor walk rows inductionHypothesis =>
      rw [List.flatten_append]
      by_cases before : wanted ≤ cursor
      · obtain ⟨row, member, same⟩ := inductionHypothesis
          (fun table member => sorted table (List.mem_append_left _ member))
          (fun table member => throughout table (List.mem_append_left _ member))
          (by rintro _ ⟨⟩; exact before)
        exact ⟨row, List.mem_append_left _ member, same⟩
      · obtain ⟨row, member, rfl⟩ := throughout rows (by simp)
        have shows :
            Shows key (beyond key cursor rows) (page key limit cursor rows) :=
          page_shows positive
        have order : Ascending key (beyond key cursor rows) :=
          (sorted rows (by simp)).sublist List.filter_sublist
        have now := shows.mem order
          (mem_beyond.2 ⟨member, not_le.1 before⟩) reached
        exact ⟨row, List.mem_append_right _ (by simpa using now), rfl⟩

/-- A walk that goes on has met a row at every page. -/
theorem length_le
    (walk : Walk key limit start tables pages next)
    (positive : 0 < limit)
    (sorted : ∀ rows ∈ tables, Ascending key rows)
    (goesOn : next.isSome = true) :
    pages.length ≤ pages.flatten.length := by
  induction walk with
  | starts => rfl
  | @reads tables pages cursor walk rows inductionHypothesis =>
      have before := inductionHypothesis
        (fun table member => sorted table (List.mem_append_left _ member)) rfl
      have shows :
          Shows key (beyond key cursor rows) (page key limit cursor rows) :=
        page_shows positive
      have order : Ascending key (beyond key cursor rows) :=
        (sorted rows (by simp)).sublist List.filter_sublist
      obtain ⟨further, more⟩ := Option.isSome_iff_exists.1 goesOn
      obtain ⟨⟨final, shown, -⟩, -⟩ := shows.next_max order more
      have one := List.length_pos_of_mem shown
      simp only [List.length_append, List.flatten_append, List.length_cons,
        List.length_nil, List.flatten_cons, List.flatten_nil, List.append_nil]
      omega

end Walk

end Usac.Library
