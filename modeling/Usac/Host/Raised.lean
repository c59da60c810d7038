import Mathlib.Data.List.Forall2
import Mathlib.Tactic.SplitIfs
import Mathlib.Tactic.TypeStar

namespace Usac.Host

/-!
# Exceptions of the host code

The host code is Python. An operation that may raise is an `Except Raised`, and
an `except` clause is a test of the class of what was raised against the class
the clause names. The classes are those the modelled code raises, those its
standard library raises into it, and their bases.
-/

/-- Exception classes. -/
inductive ErrorClass where
  | exception
  | osError
  | connectionError
  | connectionResetError
  | brokenPipeError
  | timeoutError
  | valueError
  | unicodeDecodeError
  | protocolError
  | crcMismatchError
  | runtimeError
  | deviceUnavailable
  | configurationEtagConflict
  | sessionConflict
  | configValidationError
  | configConflictError
  | runPlanError
  | spoolConflictError
  | storageConflictError
  | lookupError
  | keyError
  | typeError
  | arithmeticError
  | overflowError
  | structError
  | sqliteError
  | sqliteDatabaseError
  | sqliteOperationalError
  | sqliteIntegrityError
  deriving Repr, DecidableEq

namespace ErrorClass

/-- The class an exception class is derived from. -/
def base : ErrorClass → Option ErrorClass
  | exception => none
  | osError => some exception
  | connectionError => some osError
  | connectionResetError => some connectionError
  | brokenPipeError => some connectionError
  | timeoutError => some osError
  | valueError => some exception
  | unicodeDecodeError => some valueError
  | protocolError => some valueError
  | crcMismatchError => some protocolError
  | runtimeError => some exception
  | deviceUnavailable => some runtimeError
  | configurationEtagConflict => some runtimeError
  | sessionConflict => some runtimeError
  | configValidationError => some valueError
  | configConflictError => some runtimeError
  | runPlanError => some valueError
  | spoolConflictError => some runtimeError
  | storageConflictError => some runtimeError
  | lookupError => some exception
  | keyError => some lookupError
  | typeError => some exception
  | arithmeticError => some exception
  | overflowError => some arithmeticError
  | structError => some exception
  | sqliteError => some exception
  | sqliteDatabaseError => some sqliteError
  | sqliteOperationalError => some sqliteDatabaseError
  | sqliteIntegrityError => some sqliteDatabaseError

/-- A class and the classes it is derived from, up to a depth. -/
def lineage : Nat → ErrorClass → List ErrorClass
  | 0, _ => []
  | depth + 1, kind =>
      kind :: (kind.base.map (lineage depth)).getD []

/-- Whether a clause for one class catches another. -/
def isA (kind clause : ErrorClass) : Bool :=
  (lineage 4 kind).contains clause

/-- Every connection error is an `OSError`. -/
theorem isA_osError_of_connectionError
    {kind : ErrorClass}
    (connection : kind.isA connectionError = true) :
    kind.isA osError = true := by
  revert connection
  cases kind <;> decide

/-- Every timeout is an `OSError`. -/
theorem isA_osError_of_timeoutError
    {kind : ErrorClass}
    (timeout : kind.isA timeoutError = true) :
    kind.isA osError = true := by
  revert timeout
  cases kind <;> decide

end ErrorClass

/-- A raised exception. -/
structure Raised where
  kind : ErrorClass
  text : String
  deriving Repr, DecidableEq

namespace Raised

/-- Whether a clause for a class catches the exception. -/
def isA (raised : Raised) (clause : ErrorClass) : Bool :=
  raised.kind.isA clause

/-- A `ValueError`. -/
def valueError (text : String) : Raised :=
  ⟨.valueError, text⟩

/-- A `RuntimeError`. -/
def runtimeError (text : String) : Raised :=
  ⟨.runtimeError, text⟩

/-- A `ProtocolError`. -/
def protocolError (text : String) : Raised :=
  ⟨.protocolError, text⟩

end Raised

/-- Raise unless a check holds. -/
def require (check : Prop) [Decidable check] (raised : Raised) :
    Except Raised Unit :=
  if check then .ok () else .error raised

@[simp] theorem require_eq_ok
    {check : Prop}
    [Decidable check]
    {raised : Raised}
    {result : Unit} :
    require check raised = .ok result ↔ check := by
  unfold require
  split_ifs with holds <;> simp [holds]

@[simp] theorem require_eq_error
    {check : Prop}
    [Decidable check]
    {raised other : Raised} :
    require check raised = .error other ↔ ¬check ∧ raised = other := by
  unfold require
  split_ifs with holds <;> simp [holds]

/-- A check that holds raises nothing. -/
theorem require_pos
    {check : Prop}
    [Decidable check]
    (holds : check)
    (raised : Raised) :
    require check raised = .ok () :=
  if_pos holds

@[simp] theorem ok_bind
    {First Second : Type}
    (value : First)
    (second : First → Except Raised Second) :
    (.ok value : Except Raised First) >>= second = second value :=
  rfl

@[simp] theorem error_bind
    {First Second : Type}
    (raised : Raised)
    (second : First → Except Raised Second) :
    (.error raised : Except Raised First) >>= second = .error raised :=
  rfl

@[simp] theorem require_true (raised : Raised) :
    require True raised = .ok () :=
  rfl

/-- A computation of two parts returns when both do. -/
theorem bind_eq_ok
    {First Second : Type}
    {first : Except Raised First}
    {second : First → Except Raised Second}
    {result : Second} :
    first >>= second = .ok result ↔
      ∃ value, first = .ok value ∧ second value = .ok result := by
  cases first with
  | error raised =>
      simp [bind, Except.bind]
  | ok value =>
      simp [bind, Except.bind]

/-- A result that is looked at in another way comes from a result. -/
theorem map_eq_ok
    {First Second : Type}
    {first : Except Raised First}
    {view : First → Second}
    {result : Second} :
    first.map view = .ok result ↔
      ∃ value, first = .ok value ∧ view value = result := by
  cases first with
  | error raised =>
      simp [Except.map]
  | ok value =>
      simp [Except.map]

/-- Computations of the same first part give the same view when their second
parts do. -/
theorem map_bind_eq
    {First Second Third : Type}
    {first : Except Raised First}
    {second : First → Except Raised Second}
    {third : First → Except Raised Third}
    {view : Second → Third}
    (same : ∀ value, (second value).map view = third value) :
    (first >>= second).map view = first >>= third := by
  cases first with
  | error raised => rfl
  | ok value => exact same value

/-- A check for each element passes when it passes for every element. -/
theorem forM_eq_ok
    {Element : Type}
    {check : Element → Except Raised Unit}
    {elements : List Element}
    {result : Unit} :
    elements.forM check = .ok result ↔
      ∀ element ∈ elements, check element = .ok () := by
  induction elements with
  | nil =>
      exact ⟨fun _ element member => absurd member List.not_mem_nil,
        fun _ => rfl⟩
  | cons element rest inductionHypothesis =>
      have unfolded :
          (element :: rest).forM check =
            check element >>= fun _ => rest.forM check :=
        rfl
      rw [unfolded, bind_eq_ok, List.forall_mem_cons, inductionHypothesis]
      exact ⟨fun ⟨_, first, others⟩ => ⟨first, others⟩,
        fun ⟨first, others⟩ => ⟨(), first, others⟩⟩

/-- A mapped check returns the results of the elements, in order. -/
theorem mapM_eq_ok
    {First Second : Type}
    {check : First → Except Raised Second}
    {elements : List First}
    {results : List Second} :
    elements.mapM check = .ok results ↔
      List.Forall₂ (fun element result => check element = .ok result) elements
        results := by
  induction elements generalizing results with
  | nil =>
      rw [List.mapM_nil, List.forall₂_nil_left_iff]
      exact ⟨fun same => (Except.ok.inj same).symm, fun same => same ▸ rfl⟩
  | cons element rest inductionHypothesis =>
      rw [List.mapM_cons, List.forall₂_cons_left_iff]
      constructor
      · intro mapped
        obtain ⟨head, first, mapped⟩ := bind_eq_ok.1 mapped
        obtain ⟨tail, others, mapped⟩ := bind_eq_ok.1 mapped
        exact ⟨head, tail, first, inductionHypothesis.1 others,
          (Except.ok.inj mapped).symm⟩
      · rintro ⟨head, tail, first, others, rfl⟩
        exact bind_eq_ok.2 ⟨head, first,
          bind_eq_ok.2 ⟨tail, inductionHypothesis.2 others, rfl⟩⟩

/-- No exception of exactly this class is raised. -/
def NeverRaises
    {Result : Type}
    (kind : ErrorClass)
    (computation : Except Raised Result) :
    Prop :=
  ∀ raised, computation = .error raised → raised.kind ≠ kind

namespace NeverRaises

variable {First Second : Type} {kind : ErrorClass}

/-- A result is no exception. -/
theorem ok (value : First) :
    NeverRaises kind (.ok value : Except Raised First) := by
  intro raised fails
  cases fails

/-- An exception of another class. -/
theorem error
    {raised : Raised}
    (other : raised.kind ≠ kind) :
    NeverRaises kind (.error raised : Except Raised First) := by
  intro actual fails
  obtain rfl := Except.error.inj fails
  exact other

/-- A check that raises another class. -/
theorem require
    {check : Prop}
    [Decidable check]
    {raised : Raised}
    (other : raised.kind ≠ kind) :
    NeverRaises kind (Usac.Host.require check raised) := by
  intro actual fails
  obtain ⟨-, rfl⟩ := require_eq_error.1 fails
  exact other

/-- Two computations one after the other. -/
theorem bind
    {first : Except Raised First}
    {second : First → Except Raised Second}
    (atFirst : NeverRaises kind first)
    (atSecond : ∀ value, NeverRaises kind (second value)) :
    NeverRaises kind (first >>= second) := by
  cases first with
  | error raised =>
      rw [error_bind]
      exact error (atFirst raised rfl)
  | ok value =>
      exact atSecond value

/-- A check for each element of a list. -/
theorem forM
    {Element : Type}
    {check : Element → Except Raised Unit}
    (each : ∀ element, NeverRaises kind (check element)) :
    (elements : List Element) → NeverRaises kind (elements.forM check)
  | [] => ok ()
  | element :: rest => bind (each element) fun _ => forM each rest

end NeverRaises

end Usac.Host
