import Usac.Library.Locking

namespace Usac.Library

/-!
# Programs that take locks

A program is the shape of a piece of code as far as its locks go: blocks that
hold a lock, branches, loops, and exceptions, which may be raised wherever
something happens. A program stands for every sequence of lock actions the code
may perform, and whether it keeps a discipline is decided along the program.
-/

variable {Lock Index Rank : Type*}

/-- The locks of a piece of code. `act` is anything that takes no lock and may
raise, `family` one of several programs of the same shape. -/
inductive LockProgram (Lock Index : Type*) where
  | act
  | locked (lock : Lock) (body : LockProgram Lock Index)
  | attempted (lock : Lock) (body : LockProgram Lock Index)
  | sequence (first second : LockProgram Lock Index)
  | branch (first second : LockProgram Lock Index)
  | family (programs : Index → LockProgram Lock Index)
  | loop (body : LockProgram Lock Index)
  | caught (body handler : LockProgram Lock Index)
  | ensured (body last : LockProgram Lock Index)

namespace LockProgram

/-- The lock actions of a program, and whether it has raised. A block gives its
lock back on every way out, a handler need not catch, and the last part of an
ensured program runs in any case. -/
inductive Runs :
    LockProgram Lock Index → List (LockAction Lock) → Bool → Prop where
  | act (raised : Bool) : Runs .act [] raised
  | locked
      {lock : Lock} {body : LockProgram Lock Index}
      {actions : List (LockAction Lock)} {raised : Bool}
      (inside : Runs body actions raised) :
      Runs (.locked lock body)
        (.acquire lock :: (actions ++ [.release lock])) raised
  | attempted
      {lock : Lock} {body : LockProgram Lock Index}
      {actions : List (LockAction Lock)} {raised : Bool}
      (inside : Runs body actions raised) :
      Runs (.attempted lock body)
        (.attempt lock :: (actions ++ [.release lock])) raised
  | refused {lock : Lock} {body : LockProgram Lock Index} :
      Runs (.attempted lock body) [.refused lock] false
  | firstRaises
      {first second : LockProgram Lock Index}
      {actions : List (LockAction Lock)}
      (raises : Runs first actions true) :
      Runs (.sequence first second) actions true
  | sequence
      {first second : LockProgram Lock Index}
      {actions others : List (LockAction Lock)} {raised : Bool}
      (returns : Runs first actions false)
      (follows : Runs second others raised) :
      Runs (.sequence first second) (actions ++ others) raised
  | first
      {first second : LockProgram Lock Index}
      {actions : List (LockAction Lock)} {raised : Bool}
      (taken : Runs first actions raised) :
      Runs (.branch first second) actions raised
  | second
      {first second : LockProgram Lock Index}
      {actions : List (LockAction Lock)} {raised : Bool}
      (taken : Runs second actions raised) :
      Runs (.branch first second) actions raised
  | family
      {programs : Index → LockProgram Lock Index} (index : Index)
      {actions : List (LockAction Lock)} {raised : Bool}
      (taken : Runs (programs index) actions raised) :
      Runs (.family programs) actions raised
  | loopEnds {body : LockProgram Lock Index} : Runs (.loop body) [] false
  | loopRaises
      {body : LockProgram Lock Index} {actions : List (LockAction Lock)}
      (raises : Runs body actions true) :
      Runs (.loop body) actions true
  | loop
      {body : LockProgram Lock Index}
      {actions others : List (LockAction Lock)} {raised : Bool}
      (returns : Runs body actions false)
      (again : Runs (.loop body) others raised) :
      Runs (.loop body) (actions ++ others) raised
  | uncaught
      {body handler : LockProgram Lock Index}
      {actions : List (LockAction Lock)} {raised : Bool}
      (runs : Runs body actions raised) :
      Runs (.caught body handler) actions raised
  | caught
      {body handler : LockProgram Lock Index}
      {actions others : List (LockAction Lock)} {raised : Bool}
      (raises : Runs body actions true)
      (handles : Runs handler others raised) :
      Runs (.caught body handler) (actions ++ others) raised
  | ensured
      {body last : LockProgram Lock Index}
      {actions others : List (LockAction Lock)} {raised lastRaised : Bool}
      (runs : Runs body actions raised)
      (lastRuns : Runs last others lastRaised) :
      Runs (.ensured body last) (actions ++ others) (raised || lastRaised)

/-- What a thread that runs a program does. -/
structure Behaviour (program : LockProgram Lock Index) where
  actions : List (LockAction Lock)
  raised : Bool
  runs : program.Runs actions raised

/-- Started by a thread that holds these locks, the program takes every lock
in order. -/
def Respects
    [LT Rank]
    (discipline : LockDiscipline Lock Rank) :
    List Lock → LockProgram Lock Index → Prop
  | _, act => True
  | held, locked lock body =>
      discipline.MayTake held lock ∧ Respects discipline (lock :: held) body
  | held, attempted lock body => Respects discipline (lock :: held) body
  | held, sequence first second =>
      Respects discipline held first ∧ Respects discipline held second
  | held, branch first second =>
      Respects discipline held first ∧ Respects discipline held second
  | held, family programs => ∀ index, Respects discipline held (programs index)
  | held, loop body => Respects discipline held body
  | held, caught body handler =>
      Respects discipline held body ∧ Respects discipline held handler
  | held, ensured body last =>
      Respects discipline held body ∧ Respects discipline held last

section Ordered

variable [DecidableEq Lock] [LT Rank] {discipline : LockDiscipline Lock Rank}

/-- A block that is in order inside, and gives back its lock. -/
theorem block_ordered
    {held : List Lock}
    {lock : Lock}
    {actions : List (LockAction Lock)}
    (inside : discipline.Ordered (lock :: held) actions)
    (returned :
      LockAction.holdAfterAll (lock :: held) actions = lock :: held) :
    discipline.Ordered (lock :: held) (actions ++ [.release lock]) ∧
      LockAction.holdAfterAll (lock :: held)
        (actions ++ [.release lock]) = held := by
  rw [LockDiscipline.ordered_append, LockAction.holdAfterAll_append, returned]
  exact ⟨⟨inside, trivial, trivial⟩, List.erase_cons_head ..⟩

/-- Two parts in order, each of which gives back what it has taken. -/
theorem parts_ordered
    {held : List Lock}
    {actions others : List (LockAction Lock)}
    (first :
      discipline.Ordered held actions ∧
        LockAction.holdAfterAll held actions = held)
    (second :
      discipline.Ordered held others ∧
        LockAction.holdAfterAll held others = held) :
    discipline.Ordered held (actions ++ others) ∧
      LockAction.holdAfterAll held (actions ++ others) = held := by
  rw [LockDiscipline.ordered_append, LockAction.holdAfterAll_append, first.2]
  exact ⟨⟨first.1, second.1⟩, second.2⟩

/-- A program that respects the discipline is in order, and gives back what it
has taken. -/
theorem Respects.ordered
    {program : LockProgram Lock Index}
    {actions : List (LockAction Lock)}
    {raised : Bool}
    (runs : program.Runs actions raised)
    {held : List Lock}
    (respects : program.Respects discipline held) :
    discipline.Ordered held actions ∧
      LockAction.holdAfterAll held actions = held := by
  induction runs generalizing held with
  | act => exact ⟨trivial, rfl⟩
  | locked _ inductionHypothesis =>
      obtain ⟨ordered, returned⟩ := inductionHypothesis respects.2
      obtain ⟨whole, back⟩ := block_ordered ordered returned
      exact ⟨⟨respects.1, whole⟩, back⟩
  | attempted _ inductionHypothesis =>
      obtain ⟨ordered, returned⟩ := inductionHypothesis respects
      obtain ⟨whole, back⟩ := block_ordered ordered returned
      exact ⟨⟨trivial, whole⟩, back⟩
  | refused => exact ⟨⟨trivial, trivial⟩, rfl⟩
  | firstRaises _ inductionHypothesis => exact inductionHypothesis respects.1
  | sequence _ _ first second =>
      exact parts_ordered (first respects.1) (second respects.2)
  | first _ inductionHypothesis => exact inductionHypothesis respects.1
  | second _ inductionHypothesis => exact inductionHypothesis respects.2
  | family index _ inductionHypothesis =>
      exact inductionHypothesis (respects index)
  | loopEnds => exact ⟨trivial, rfl⟩
  | loopRaises _ inductionHypothesis => exact inductionHypothesis respects
  | loop _ _ first again =>
      exact parts_ordered (first respects) (again respects)
  | uncaught _ inductionHypothesis => exact inductionHypothesis respects.1
  | caught _ _ first second =>
      exact parts_ordered (first respects.1) (second respects.2)
  | ensured _ _ first second =>
      exact parts_ordered (first respects.1) (second respects.2)

end Ordered

end LockProgram

end Usac.Library
