import Usac.Library.Machine
import Mathlib.Logic.Relation
import Mathlib.Order.Basic

namespace Usac.Library

/-!
# Threads that take locks

A thread is a sequence of acquisitions and releases, and a run is any
interleaving of any number of threads. A lock may be re-entrant: the thread
that holds it may take it again.

A discipline ranks the locks and has every thread wait only for a lock above
all those it holds, or for one it already holds and may take again. Under a
discipline no threads ever wait for each other in a circle.
-/

variable {Lock Rank : Type*}

/-- What a thread does to a lock. An attempt gives up where an acquisition
waits: it has been refused. -/
inductive LockAction (Lock : Type*) where
  | acquire (lock : Lock)
  | attempt (lock : Lock)
  | refused (lock : Lock)
  | release (lock : Lock)
  deriving Repr, DecidableEq

/-- A thread: the locks it holds, each as often as it has taken it, and what it
has still to do. -/
structure LockThread (Lock : Type*) where
  held : List Lock
  rest : List (LockAction Lock)
  deriving Repr, DecidableEq

namespace LockAction

variable [DecidableEq Lock]

/-- The locks a thread holds after an action. -/
def holdAfter (held : List Lock) : LockAction Lock → List Lock
  | acquire lock => lock :: held
  | attempt lock => lock :: held
  | refused _ => held
  | release lock => held.erase lock

/-- The locks a thread holds after a sequence of actions. -/
def holdAfterAll
    (held : List Lock)
    (actions : List (LockAction Lock)) :
    List Lock :=
  actions.foldl holdAfter held

@[simp] theorem holdAfterAll_append
    (held : List Lock)
    (first second : List (LockAction Lock)) :
    holdAfterAll held (first ++ second) =
      holdAfterAll (holdAfterAll held first) second :=
  List.foldl_append

end LockAction

/-! ## The discipline -/

/-- Which locks are re-entrant, and their order. -/
structure LockDiscipline (Lock Rank : Type*) where
  reentrant : Lock → Bool
  rank : Lock → Rank

namespace LockDiscipline

variable [LT Rank] (discipline : LockDiscipline Lock Rank)

/-- A thread that holds these locks may wait for this one. -/
def MayTake (held : List Lock) (lock : Lock) : Prop :=
  lock ∈ held ∧ discipline.reentrant lock = true ∨
    ∀ other ∈ held, discipline.rank other < discipline.rank lock

/-- Only an acquisition can wait. -/
def Allowed (held : List Lock) : LockAction Lock → Prop
  | .acquire lock => discipline.MayTake held lock
  | _ => True

/-- Every acquisition of a sequence is in order. -/
def Ordered [DecidableEq Lock] :
    List Lock → List (LockAction Lock) → Prop
  | _, [] => True
  | held, action :: rest =>
      discipline.Allowed held action ∧ Ordered (action.holdAfter held) rest

@[simp] theorem ordered_append
    [DecidableEq Lock]
    (held : List Lock)
    (first second : List (LockAction Lock)) :
    discipline.Ordered held (first ++ second) ↔
      discipline.Ordered held first ∧
        discipline.Ordered (LockAction.holdAfterAll held first) second := by
  induction first generalizing held with
  | nil =>
      exact (true_and _).symm.to_iff
  | cons action rest inductionHypothesis =>
      rw [List.cons_append, Ordered, Ordered, inductionHypothesis, and_assoc]
      rfl

end LockDiscipline

/-! ## Runs -/

/-- The threads that have been started. -/
abbrev LockState (Lock : Type*) := List (LockThread Lock)

namespace LockState

/-- A thread holds a lock. -/
def Holds (state : LockState Lock) (index : Nat) (lock : Lock) : Prop :=
  ∃ thread, state[index]? = some thread ∧ lock ∈ thread.held

/-- A thread can take a lock: no other thread holds it, nor the thread itself
unless the lock is re-entrant. -/
def Available
    (reentrant : Lock → Bool)
    (state : LockState Lock)
    (index : Nat)
    (lock : Lock) :
    Prop :=
  ∀ (other : Nat) (inside : other < state.length),
    lock ∈ state[other].held → other = index ∧ reentrant lock = true

instance
    [DecidableEq Lock]
    (reentrant : Lock → Bool)
    (state : LockState Lock)
    (index : Nat)
    (lock : Lock) :
    Decidable (state.Available reentrant index lock) :=
  inferInstanceAs (Decidable (∀ (other : Nat) (inside : other < state.length),
    lock ∈ state[other].held → other = index ∧ reentrant lock = true))

/-- A thread stands at an acquisition it cannot make. -/
def Waits
    (reentrant : Lock → Bool)
    (state : LockState Lock)
    (index : Nat)
    (lock : Lock) :
    Prop :=
  (∃ held rest, state[index]? = some ⟨held, .acquire lock :: rest⟩) ∧
    ¬state.Available reentrant index lock

/-- A thread waits for a lock that a thread holds. -/
def WaitsFor
    (reentrant : Lock → Bool)
    (state : LockState Lock)
    (waiting holding : Nat) :
    Prop :=
  ∃ lock, state.Waits reentrant waiting lock ∧ state.Holds holding lock

variable [DecidableEq Lock]

/-- An action that can be taken now. -/
def isEnabled
    (reentrant : Lock → Bool)
    (state : LockState Lock)
    (index : Nat) :
    LockAction Lock → Bool
  | .acquire lock => state.Available reentrant index lock
  | .attempt lock => state.Available reentrant index lock
  | .refused lock => ¬state.Available reentrant index lock
  | .release _ => true

/-- The next action of a thread, if it can be taken. -/
def advance
    (reentrant : Lock → Bool)
    (state : LockState Lock)
    (index : Nat) :
    LockState Lock :=
  match state[index]? with
  | some ⟨held, action :: rest⟩ =>
      if state.isEnabled reentrant index action then
        state.set index ⟨action.holdAfter held, rest⟩
      else
        state
  | _ => state

end LockState

/-- A thread is started, or takes its next action. -/
inductive LockInput (Start : Type*) where
  | start (thread : Start)
  | advance (index : Nat)

/-- The threads as a machine, for what threads of each kind do. -/
def lockMachine
    [DecidableEq Lock]
    {Start : Type*}
    (reentrant : Lock → Bool)
    (actions : Start → List (LockAction Lock)) :
    Machine (LockState Lock) (LockInput Start) Unit where
  step state
    | .start thread => (state ++ [⟨[], actions thread⟩], ())
    | .advance index => (state.advance reentrant index, ())

namespace LockState

variable {reentrant : Lock → Bool} {state : LockState Lock}

/-- No two threads hold the same lock. -/
def Exclusive (state : LockState Lock) : Prop :=
  ∀ first second lock,
    state.Holds first lock → state.Holds second lock → first = second

/-- What a thread holds after it has been given something new to hold. -/
theorem holds_set
    {index other : Nat}
    {thread : LockThread Lock}
    {lock : Lock}
    (holds : Holds (state.set index thread) other lock) :
    other = index ∧ lock ∈ thread.held ∨
      other ≠ index ∧ state.Holds other lock := by
  obtain ⟨found, present, member⟩ := holds
  rw [List.getElem?_set] at present
  split at present
  · next same =>
      left
      split at present
      · cases present
        exact ⟨same.symm, member⟩
      · cases present
  · next different =>
      exact .inr ⟨fun same => different same.symm, found, present, member⟩

/-- What the threads hold after another one has been started. -/
theorem holds_start
    {index : Nat}
    {actions : List (LockAction Lock)}
    {lock : Lock}
    (holds : Holds (state ++ [⟨[], actions⟩]) index lock) :
    state.Holds index lock := by
  obtain ⟨found, present, member⟩ := holds
  rw [List.getElem?_append] at present
  split at present
  · exact ⟨found, present, member⟩
  · obtain rfl := List.mem_singleton.1 (List.mem_of_getElem? present)
    cases member

/-- A lock that is available is held by nobody else. -/
theorem Available.holder
    {index other : Nat}
    {lock : Lock}
    (available : state.Available reentrant index lock)
    (holds : state.Holds other lock) :
    other = index := by
  obtain ⟨thread, present, member⟩ := holds
  obtain ⟨inside, rfl⟩ := List.getElem?_eq_some_iff.1 present
  exact (available other inside member).1

/-- A thread that takes an action has no lock that another thread holds. -/
theorem Exclusive.advance
    [DecidableEq Lock]
    (exclusive : state.Exclusive)
    (index : Nat) :
    (state.advance reentrant index).Exclusive := by
  unfold LockState.advance
  split
  · next held action rest present =>
      split
      · next enabled =>
          -- What the thread holds afterwards is its own already, or free.
          have own :
              ∀ lock ∈ action.holdAfter held, ∀ other,
                state.Holds other lock → other = index := by
            intro lock member other holds
            have before :
                lock ∈ held → other = index := fun already =>
              exclusive _ _ lock holds ⟨_, present, already⟩
            cases action with
            | acquire taken =>
                rcases List.mem_cons.1 member with rfl | already
                · exact (of_decide_eq_true enabled :
                      state.Available reentrant index _).holder holds
                · exact before already
            | attempt taken =>
                rcases List.mem_cons.1 member with rfl | already
                · exact (of_decide_eq_true enabled :
                      state.Available reentrant index _).holder holds
                · exact before already
            | refused taken => exact before member
            | release given => exact before (List.mem_of_mem_erase member)
          intro first second lock atFirst atSecond
          rcases holds_set atFirst with ⟨rfl, member⟩ | ⟨elsewhere, holds⟩
          · rcases holds_set atSecond with ⟨rfl, _⟩ | ⟨_, other⟩
            · rfl
            · exact (own lock member second other).symm
          · rcases holds_set atSecond with ⟨rfl, member⟩ | ⟨_, other⟩
            · exact own lock member first holds
            · exact exclusive first second lock holds other
      · exact exclusive
  · exact exclusive

end LockState

/-! ## No circle -/

namespace LockDiscipline

variable [DecidableEq Lock] [Preorder Rank]
  (discipline : LockDiscipline Lock Rank)

/-- The locks are held exclusively, and every thread keeps the discipline. -/
structure Keeps (state : LockState Lock) : Prop where
  exclusive : state.Exclusive
  ordered :
    ∀ thread ∈ state, discipline.Ordered thread.held thread.rest

variable {discipline} {state : LockState Lock}

theorem Keeps.start
    (keeps : discipline.Keeps state)
    {actions : List (LockAction Lock)}
    (ordered : discipline.Ordered [] actions) :
    discipline.Keeps (state ++ [⟨[], actions⟩]) := by
  refine ⟨?_, ?_⟩
  · intro first second lock atFirst atSecond
    exact keeps.exclusive first second lock
      (LockState.holds_start atFirst) (LockState.holds_start atSecond)
  · intro thread member
    rcases List.mem_append.1 member with old | new
    · exact keeps.ordered thread old
    · obtain rfl := List.mem_singleton.1 new
      exact ordered

theorem Keeps.advance
    (keeps : discipline.Keeps state)
    (index : Nat) :
    discipline.Keeps (state.advance discipline.reentrant index) := by
  refine ⟨keeps.exclusive.advance index, ?_⟩
  unfold LockState.advance
  split
  · next held action rest present =>
      split
      · intro thread member
        rcases List.mem_or_eq_of_mem_set member with old | rfl
        · exact keeps.ordered thread old
        · exact (keeps.ordered _ (List.mem_of_getElem? present)).2
      · exact keeps.ordered
  · exact keeps.ordered

/-- A thread that waits holds only locks below the one it waits for. -/
theorem Keeps.below
    (keeps : discipline.Keeps state)
    {index : Nat}
    {wanted held : Lock}
    (waits : state.Waits discipline.reentrant index wanted)
    (holds : state.Holds index held) :
    discipline.rank held < discipline.rank wanted := by
  obtain ⟨⟨locks, rest, present⟩, unavailable⟩ := waits
  obtain ⟨thread, found, member⟩ := holds
  cases Option.some.inj (present.symm.trans found)
  have allowed := (keeps.ordered _ (List.mem_of_getElem? present)).1
  rcases allowed with ⟨already, reentrant⟩ | above
  · -- A lock the thread may take again is available to it.
    refine absurd ?_ unavailable
    intro other inside member
    exact ⟨keeps.exclusive other index wanted
      ⟨_, List.getElem?_eq_getElem inside, member⟩ ⟨_, present, already⟩,
      reentrant⟩
  · exact above held member

/-- Along a path of waiting threads the locks rise. -/
theorem Keeps.rises
    (keeps : discipline.Keeps state)
    {first last : Nat}
    (path :
      Relation.TransGen (state.WaitsFor discipline.reentrant) first last) :
    ∃ wanted held,
      state.Waits discipline.reentrant first wanted ∧
        state.Holds last held ∧
        discipline.rank wanted ≤ discipline.rank held := by
  induction path with
  | single step =>
      obtain ⟨lock, waits, holds⟩ := step
      exact ⟨lock, lock, waits, holds, le_refl _⟩
  | tail _ step inductionHypothesis =>
      obtain ⟨wanted, held, waits, holds, rises⟩ := inductionHypothesis
      obtain ⟨next, waitsNext, holdsNext⟩ := step
      have below := keeps.below waitsNext holds
      exact ⟨wanted, next, waits, holdsNext, rises.trans below.le⟩

/-- Threads under a discipline never wait for each other in a circle. -/
theorem Keeps.no_circle
    (keeps : discipline.Keeps state)
    (index : Nat) :
    ¬Relation.TransGen (state.WaitsFor discipline.reentrant) index index := by
  intro circle
  obtain ⟨wanted, held, waits, holds, rises⟩ := keeps.rises circle
  exact lt_irrefl _ ((keeps.below waits holds).trans_le rises)

/-- A run of threads that each keep the discipline. -/
theorem keeps_after
    {Start : Type*}
    {actions : Start → List (LockAction Lock)}
    (ordered : ∀ thread, discipline.Ordered [] (actions thread))
    (inputs : List (LockInput Start)) :
    discipline.Keeps
      ((lockMachine discipline.reentrant actions).after [] inputs) := by
  refine Machine.invariant_of_step _ discipline.Keeps ?_ ?_ inputs
  · refine ⟨?_, fun thread member => absurd member List.not_mem_nil⟩
    rintro first second lock ⟨_, present, _⟩ _
    cases present
  · intro state input keeps
    cases input with
    | start thread => exact keeps.start (ordered thread)
    | advance index => exact keeps.advance index

end LockDiscipline

end Usac.Library
