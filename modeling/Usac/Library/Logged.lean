import Mathlib.Data.List.Basic

namespace Usac.Library

/-!
# Operations that keep a log

An operation whose state is the log of what it has done only ever appends to
it. A law relates the result of an operation to the segment it appends, and
laws of consecutive operations are composed along the segments.
-/

variable {Entry First Second Result : Type}

/-- An operation that keeps a log. -/
abbrev Logged (Entry Result : Type) := StateM (List Entry) Result

namespace Logged

/-- An operation whose answer depends on the log, and is logged with it. -/
def perform
    (answer : List Entry → Result)
    (entry : Result → Entry) :
    Logged Entry Result := fun log =>
  (answer log, log ++ [entry (answer log)])

/-- Two operations run one after the other. -/
theorem bind_run
    (first : Logged Entry First)
    (second : First → Logged Entry Second)
    (log : List Entry) :
    (first >>= second) log = second (first log).1 (first log).2 :=
  rfl

/-- Whatever has been logged before, the operation appends a segment that obeys
the law with its result. -/
def Appends
    (operation : Logged Entry Result)
    (law : Result → List Entry → Prop) :
    Prop :=
  ∀ log, ∃ segment,
    (operation log).2 = log ++ segment ∧ law (operation log).1 segment

namespace Appends

/-- A result that is already there appends nothing. -/
theorem pure
    {law : Result → List Entry → Prop}
    {result : Result}
    (holds : law result []) :
    Appends (Pure.pure result : Logged Entry Result) law :=
  fun log => ⟨[], (List.append_nil log).symm, holds⟩

/-- An operation that appends one entry. -/
theorem entry
    {law : Unit → List Entry → Prop}
    {entry : Entry}
    (holds : law () [entry]) :
    Appends (modify (· ++ [entry]) : Logged Entry Unit) law :=
  fun _ => ⟨[entry], rfl, holds⟩

/-- An operation whose answer is logged with it. -/
theorem perform
    {law : Result → List Entry → Prop}
    {answer : List Entry → Result}
    {entry : Result → Entry}
    (holds : ∀ result, law result [entry result]) :
    Appends (perform answer entry) law :=
  fun log => ⟨[entry (answer log)], rfl, holds (answer log)⟩

/-- Two operations append one segment after the other. -/
theorem bind
    {first : Logged Entry First}
    {second : First → Logged Entry Second}
    {between : First → List Entry → Prop}
    {law : Second → List Entry → Prop}
    (atFirst : Appends first between)
    (atSecond :
      ∀ value segment,
        between value segment →
          Appends (second value) fun result rest =>
            law result (segment ++ rest)) :
    Appends (first >>= second) law := by
  intro log
  obtain ⟨segment, appended, holds⟩ := atFirst log
  obtain ⟨rest, extended, whole⟩ :=
    atSecond _ segment holds (first log).2
  refine ⟨segment ++ rest, ?_, whole⟩
  rw [← List.append_assoc, ← appended]
  exact extended

/-- A law that implies another. -/
theorem imp
    {operation : Logged Entry Result}
    {law weaker : Result → List Entry → Prop}
    (appends : Appends operation law)
    (implies : ∀ result segment, law result segment → weaker result segment) :
    Appends operation weaker := by
  intro log
  obtain ⟨segment, appended, holds⟩ := appends log
  exact ⟨segment, appended, implies _ _ holds⟩

end Appends

end Logged

end Usac.Library
