import Mathlib.Data.List.Basic
import Mathlib.Data.Nat.Find

namespace Usac.Library

/-!
# Scans that lose what they drop

A finder says which item starts at the front of a stream. Where none does, the
patient scan passes over one symbol, and a hasty scan drops further symbols
with it. Both find the same items in the same places exactly when no item
starts among the symbols that the hasty scan drops.
-/

variable {Symbol Item : Type*}

/-- What starts at the front of a stream, and how many symbols it takes. -/
structure Finder (Symbol Item : Type*) where
  find? : List Symbol → Option Item
  size : Item → Nat
  fits :
    ∀ {data : List Symbol} {item : Item},
      find? data = some item → 0 < size item ∧ size item ≤ data.length

namespace Finder

variable (finder : Finder Symbol Item) (dropped : List Symbol → Nat)

/-- Behind an item the stream is shorter. -/
theorem length_drop_lt
    {data : List Symbol}
    {item : Item}
    (found : finder.find? data = some item) :
    (data.drop (finder.size item)).length < data.length := by
  obtain ⟨positive, fits⟩ := finder.fits found
  rw [List.length_drop]
  exact Nat.sub_lt (Nat.lt_of_lt_of_le positive fits) positive

/-- The items a scan finds, each with the position behind it, when it drops
some symbols with each one it passes over. -/
def scan (position : Nat) : List Symbol → List (Nat × Item)
  | [] => []
  | symbol :: rest =>
      match _found : finder.find? (symbol :: rest) with
      | some item =>
          (position + finder.size item, item) ::
            scan (position + finder.size item)
              ((symbol :: rest).drop (finder.size item))
      | none =>
          scan (position + 1 + dropped (symbol :: rest))
            (rest.drop (dropped (symbol :: rest)))
termination_by data => data.length
decreasing_by
  · exact finder.length_drop_lt _found
  · rw [List.length_drop, List.length_cons]
    exact Nat.lt_succ_of_le (Nat.sub_le _ _)

/-- The scan that passes over one symbol at a time. -/
def patient : Nat → List Symbol → List (Nat × Item) :=
  finder.scan fun _ => 0

/-- No item starts among the symbols a scan drops. -/
inductive Clear : List Symbol → Prop where
  | nil : Clear []
  | found
      {data : List Symbol}
      {item : Item}
      (found : finder.find? data = some item)
      (behind : Clear (data.drop (finder.size item))) :
      Clear data
  | passed
      {symbol : Symbol}
      {rest : List Symbol}
      (nothing : finder.find? (symbol :: rest) = none)
      (inside :
        ∀ index < dropped (symbol :: rest),
          finder.find? (rest.drop index) = none)
      (behind : Clear (rest.drop (dropped (symbol :: rest)))) :
      Clear (symbol :: rest)

variable {finder dropped}

/-- Nothing starts at the end of the stream. -/
theorem find?_nil : finder.find? [] = none := by
  cases found : finder.find? [] with
  | none => rfl
  | some item =>
      obtain ⟨positive, fits⟩ := finder.fits found
      exact absurd fits (Nat.not_le.2 positive)

/-- At the end of the stream there is nothing to find. -/
theorem scan_nil (position : Nat) : finder.scan dropped position [] = [] := by
  rw [scan]

/-- A scan jumps behind what it finds. -/
theorem scan_of_found
    {data : List Symbol}
    {item : Item}
    (found : finder.find? data = some item)
    (position : Nat) :
    finder.scan dropped position data =
      (position + finder.size item, item) ::
        finder.scan dropped (position + finder.size item)
          (data.drop (finder.size item)) := by
  cases data with
  | nil => cases find?_nil.symm.trans found
  | cons symbol rest =>
      rw [scan]
      split
      · next other same =>
          cases same.symm.trans found
          rfl
      · next other => cases other.symm.trans found

/-- A scan drops symbols with the one it passes over. -/
theorem scan_passed
    {symbol : Symbol}
    {rest : List Symbol}
    (nothing : finder.find? (symbol :: rest) = none)
    (position : Nat) :
    finder.scan dropped position (symbol :: rest) =
      finder.scan dropped (position + 1 + dropped (symbol :: rest))
        (rest.drop (dropped (symbol :: rest))) := by
  rw [scan]
  split
  · next other => cases other.symm.trans nothing
  · rfl

/-- A scan finds an item behind the position it has reached. -/
theorem le_of_mem_scan
    {position : Nat}
    {data : List Symbol}
    {finding : Nat × Item}
    (member : finding ∈ finder.scan dropped position data) :
    position + finder.size finding.2 ≤ finding.1 := by
  induction position, data using Finder.scan.induct finder dropped with
  | case1 position =>
      rw [scan_nil] at member
      exact absurd member List.not_mem_nil
  | case2 position symbol rest item found inductionHypothesis =>
      rw [scan_of_found found] at member
      rcases List.mem_cons.1 member with rfl | member
      · exact Nat.le_refl _
      · exact Nat.le_trans
          (Nat.add_le_add_right (Nat.le_add_right _ _) _)
          (inductionHypothesis member)
  | case3 position symbol rest nothing inductionHypothesis =>
      rw [scan_passed nothing] at member
      refine Nat.le_trans (Nat.add_le_add_right ?_ _)
        (inductionHypothesis member)
      rw [Nat.add_assoc]
      exact Nat.le_add_right _ _

/-- The patient scan passes over one symbol. -/
theorem patient_passed
    {symbol : Symbol}
    {rest : List Symbol}
    (nothing : finder.find? (symbol :: rest) = none)
    (position : Nat) :
    finder.patient position (symbol :: rest) =
      finder.patient (position + 1) rest :=
  scan_passed nothing position

/-- The patient scan passes over symbols at which nothing starts. -/
theorem patient_drop
    {count : Nat}
    {data : List Symbol}
    (nothing : ∀ index < count, finder.find? (data.drop index) = none)
    (position : Nat) :
    finder.patient position data =
      finder.patient (position + count) (data.drop count) := by
  induction count generalizing position data with
  | zero => rfl
  | succ count inductionHypothesis =>
      cases data with
      | nil =>
          rw [List.drop_nil]
          exact (scan_nil _).trans (scan_nil _).symm
      | cons symbol rest =>
          have first : finder.find? (symbol :: rest) = none :=
            nothing 0 (Nat.succ_pos count)
          have later : ∀ index < count,
              finder.find? (rest.drop index) = none :=
            fun index inside => nothing (index + 1) (Nat.succ_lt_succ inside)
          rw [patient_passed first, inductionHypothesis later,
            List.drop_succ_cons, Nat.add_assoc, Nat.add_comm 1]

/-- An item behind which a stream is clear. -/
theorem clear_found_iff
    {data : List Symbol}
    {item : Item}
    (found : finder.find? data = some item) :
    finder.Clear dropped data ↔
      finder.Clear dropped (data.drop (finder.size item)) := by
  refine ⟨fun clear => ?_, Clear.found found⟩
  cases clear with
  | nil => cases find?_nil.symm.trans found
  | found same behind =>
      cases same.symm.trans found
      exact behind
  | passed nothing => cases nothing.symm.trans found

/-- A symbol with which a clear stream is dropped. -/
theorem clear_passed_iff
    {symbol : Symbol}
    {rest : List Symbol}
    (nothing : finder.find? (symbol :: rest) = none) :
    finder.Clear dropped (symbol :: rest) ↔
      (∀ index < dropped (symbol :: rest),
        finder.find? (rest.drop index) = none) ∧
        finder.Clear dropped (rest.drop (dropped (symbol :: rest))) := by
  constructor
  · intro clear
    cases clear with
    | found found => cases nothing.symm.trans found
    | passed _ inside behind => exact ⟨inside, behind⟩
  · rintro ⟨inside, behind⟩
    exact Clear.passed nothing inside behind

/-- The patient scan finds what a hasty scan drops. -/
theorem scan_ne_patient
    {count : Nat}
    {data : List Symbol}
    (lost : ∃ index < count, finder.find? (data.drop index) ≠ none)
    (position : Nat) :
    finder.scan dropped (position + count) (data.drop count) ≠
      finder.patient position data := by
  classical
  obtain ⟨inside, present⟩ := Nat.find_spec lost
  have before : ∀ index < Nat.find lost,
      finder.find? (data.drop index) = none := by
    intro index earlier
    by_contra other
    exact Nat.find_min lost earlier ⟨Nat.lt_trans earlier inside, other⟩
  obtain ⟨item, found⟩ := Option.ne_none_iff_exists'.1 present
  intro same
  -- The patient scan starts with the first item that is lost.
  rw [patient_drop before, patient, scan_of_found found] at same
  have member := same ▸ List.mem_cons_self
  have behind := le_of_mem_scan member
  dsimp only at behind
  exact absurd (Nat.le_of_add_le_add_left (Nat.le_of_add_le_add_right behind))
    (Nat.not_le.2 inside)

/-- A hasty scan finds what the patient scan finds exactly when nothing starts
among what it drops. -/
theorem scan_eq_patient_iff
    (position : Nat)
    (data : List Symbol) :
    finder.scan dropped position data = finder.patient position data ↔
      finder.Clear dropped data := by
  induction position, data using Finder.scan.induct finder dropped with
  | case1 position =>
      exact iff_of_true ((scan_nil _).trans (scan_nil _).symm) Clear.nil
  | case2 position symbol rest item found inductionHypothesis =>
      rw [clear_found_iff found, ← inductionHypothesis, patient,
        scan_of_found found, scan_of_found found]
      exact ⟨fun same => (List.cons.inj same).2, congrArg (List.cons _)⟩
  | case3 position symbol rest nothing inductionHypothesis =>
      rw [clear_passed_iff nothing, ← inductionHypothesis,
        scan_passed nothing, patient_passed nothing]
      by_cases inside :
          ∀ index < dropped (symbol :: rest),
            finder.find? (rest.drop index) = none
      · rw [patient_drop inside]
        exact ⟨fun same => ⟨inside, same⟩, And.right⟩
      · push Not at inside
        exact iff_of_false (scan_ne_patient inside _) fun clear => by
          obtain ⟨index, within, present⟩ := inside
          exact present (clear.1 index within)

end Finder

end Usac.Library
