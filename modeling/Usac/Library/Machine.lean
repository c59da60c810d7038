import Mathlib.Data.List.Induction

namespace Usac.Library

/-!
# Deterministic machines and laws about their runs

A machine answers every input with one output and one next state. Whatever the
environment decides (the result of a callback, the next scheduling choice) is
part of the input, so a run is determined by a finite list of inputs and an
arbitrary interleaving is an arbitrary input list.

Laws about runs are stated over the recorded events. `EveryStep` gives each
event together with everything recorded before it, which is what a law needs
when it compares a step with the history that led to it.
-/

variable {State Input Output : Type*}

/-- A total machine with one output for each input. -/
structure Machine (State Input Output : Type*) where
  step : State → Input → State × Output

/-- One recorded step of a machine. -/
structure Event (State Input Output : Type*) where
  source : State
  input : Input
  output : Output
  target : State
  deriving Repr, DecidableEq

/-- The law holds at every event of the list, given the events before it. -/
def EveryStep {Recorded : Type*}
    (law : List Recorded → Recorded → Prop)
    (events : List Recorded) : Prop :=
  ∀ earlier event later,
    events = earlier ++ event :: later → law earlier event

namespace EveryStep

variable {Recorded : Type*} {law : List Recorded → Recorded → Prop}

/-- Every law holds of an empty record. -/
theorem nil : EveryStep law [] := by
  intro earlier event later shape
  simp at shape

/-- A record extended by one event satisfies the law exactly when the record
does and the new event does after it. -/
theorem concat_iff
    (events : List Recorded)
    (last : Recorded) :
    EveryStep law (events ++ [last]) ↔
      EveryStep law events ∧ law events last := by
  constructor
  · intro every
    constructor
    · intro earlier event later shape
      exact every earlier event (later ++ [last]) (by simp [shape])
    · exact every events last [] rfl
  · rintro ⟨every, final⟩ earlier event later shape
    rcases List.eq_nil_or_concat later with rfl | ⟨front, tail, rfl⟩
    · obtain ⟨rfl, sameLast⟩ := List.append_inj' shape rfl
      simpa [List.cons.inj sameLast |>.1] using final
    · have sameFront : events = earlier ++ event :: front := by
        have regrouped :
            events ++ [last] = (earlier ++ event :: front) ++ [tail] := by
          simpa using shape
        exact (List.append_inj' regrouped rfl).1
      exact every earlier event front sameFront

/-- A law of a record is a law of its first event and of the rest. -/
theorem cons_iff
    (first : Recorded)
    (rest : List Recorded) :
    EveryStep law (first :: rest) ↔
      law [] first ∧ EveryStep (fun earlier => law (first :: earlier)) rest := by
  constructor
  · intro every
    refine ⟨every [] first rest rfl, ?_⟩
    intro earlier event later shape
    exact every (first :: earlier) event later (by simp [shape])
  · rintro ⟨atFirst, every⟩ earlier event later shape
    cases earlier with
    | nil =>
        obtain ⟨rfl, -⟩ := List.cons.inj shape
        exact atFirst
    | cons head tail =>
        obtain ⟨rfl, sameRest⟩ := List.cons.inj shape
        exact every tail event later sameRest

/-- A law that implies another carries over to it. -/
theorem imp
    {weaker : List Recorded → Recorded → Prop}
    {events : List Recorded}
    (every : EveryStep law events)
    (implies : ∀ earlier event, law earlier event → weaker earlier event) :
    EveryStep weaker events := by
  intro earlier event later shape
  exact implies earlier event (every earlier event later shape)

/-- A decidable law can be checked along a record. -/
instance decidable
    (law : List Recorded → Recorded → Prop)
    [decide : ∀ earlier event, Decidable (law earlier event)] :
    (events : List Recorded) → Decidable (EveryStep law events)
  | [] => isTrue nil
  | first :: rest =>
      have : Decidable
          (EveryStep (fun earlier => law (first :: earlier)) rest) :=
        decidable (fun earlier => law (first :: earlier)) rest
      decidable_of_iff _ (cons_iff first rest).symm

/-- A law that ignores the history holds at every recorded event. -/
theorem forall_iff
    (law : Recorded → Prop)
    (events : List Recorded) :
    EveryStep (fun _ event => law event) events ↔
      ∀ event ∈ events, law event := by
  constructor
  · intro every event member
    obtain ⟨earlier, later, shape⟩ := List.append_of_mem member
    exact every earlier event later shape
  · intro every earlier event later shape
    exact every event (by simp [shape])

end EveryStep

namespace Machine

variable (machine : Machine State Input Output)

/-- The event recorded when the machine takes one input. -/
def event (state : State) (input : Input) : Event State Input Output where
  source := state
  input := input
  output := (machine.step state input).2
  target := (machine.step state input).1

/-- The state reached after a list of inputs. -/
def after (state : State) : List Input → State
  | [] => state
  | input :: rest => after (machine.step state input).1 rest

/-- The events recorded over a list of inputs. -/
def trace (state : State) : List Input → List (Event State Input Output)
  | [] => []
  | input :: rest =>
      machine.event state input :: trace (machine.step state input).1 rest

@[simp] theorem event_source (state : State) (input : Input) :
    (machine.event state input).source = state :=
  rfl

@[simp] theorem event_input (state : State) (input : Input) :
    (machine.event state input).input = input :=
  rfl

/-- Running two lists one after the other. -/
theorem after_append
    (state : State)
    (first second : List Input) :
    machine.after state (first ++ second) =
      machine.after (machine.after state first) second := by
  induction first generalizing state with
  | nil =>
      rfl
  | cons input rest inductionHypothesis =>
      exact inductionHypothesis _

/-- The record of two lists run one after the other. -/
theorem trace_append
    (state : State)
    (first second : List Input) :
    machine.trace state (first ++ second) =
      machine.trace state first ++
        machine.trace (machine.after state first) second := by
  induction first generalizing state with
  | nil =>
      rfl
  | cons input rest inductionHypothesis =>
      simp only [List.cons_append, trace, after, inductionHypothesis]

/-- The last input of a run adds one event at the end of the record. -/
theorem trace_concat
    (state : State)
    (inputs : List Input)
    (last : Input) :
    machine.trace state (inputs ++ [last]) =
      machine.trace state inputs ++
        [machine.event (machine.after state inputs) last] := by
  simp [trace_append, trace]

/-- The last input of a run takes one step from the state reached before. -/
theorem after_concat
    (state : State)
    (inputs : List Input)
    (last : Input) :
    machine.after state (inputs ++ [last]) =
      (machine.event (machine.after state inputs) last).target := by
  simp [after_append, after, event]

/-- The record names the inputs in order. -/
theorem trace_inputs
    (state : State)
    (inputs : List Input) :
    (machine.trace state inputs).map Event.input = inputs := by
  induction inputs generalizing state with
  | nil =>
      rfl
  | cons input rest inductionHypothesis =>
      simp [trace, inductionHypothesis]

/-- Every recorded event answers one of the inputs. -/
theorem input_mem_of_mem_trace
    {state : State}
    {inputs : List Input}
    {event : Event State Input Output}
    (member : event ∈ machine.trace state inputs) :
    event.input ∈ inputs := by
  rw [← machine.trace_inputs state inputs]
  exact List.mem_map_of_mem member

/-- A recorded event is the step its machine takes from its source. -/
theorem eq_event_of_mem_trace
    {state : State}
    {inputs : List Input}
    {event : Event State Input Output}
    (member : event ∈ machine.trace state inputs) :
    event = machine.event event.source event.input := by
  induction inputs generalizing state with
  | nil =>
      cases member
  | cons input rest inductionHypothesis =>
      rcases List.mem_cons.1 member with rfl | later
      · rfl
      · exact inductionHypothesis later

/--
A history invariant that every conditioned step keeps holds after every run
whose steps all meet the condition.
-/
theorem invariant_after
    {start : State}
    {condition :
      List (Event State Input Output) → Event State Input Output → Prop}
    (invariant : List (Event State Input Output) → State → Prop)
    (initially : invariant [] start)
    (preserved :
      ∀ earlier state input,
        invariant earlier state →
        condition earlier (machine.event state input) →
        invariant (earlier ++ [machine.event state input])
          (machine.event state input).target)
    (inputs : List Input)
    (conditioned : EveryStep condition (machine.trace start inputs)) :
    invariant (machine.trace start inputs) (machine.after start inputs) := by
  induction inputs using List.reverseRecOn with
  | nil =>
      exact initially
  | append_singleton inputs last inductionHypothesis =>
      rw [trace_concat] at conditioned ⊢
      rw [after_concat]
      obtain ⟨before, atLast⟩ := (EveryStep.concat_iff _ _).1 conditioned
      exact preserved _ _ _ (inductionHypothesis before) atLast

/-- A history invariant that every step keeps holds after every run. -/
theorem history_after
    {start : State}
    (invariant : List (Event State Input Output) → State → Prop)
    (initially : invariant [] start)
    (preserved :
      ∀ earlier state input,
        invariant earlier state →
        invariant (earlier ++ [machine.event state input])
          (machine.event state input).target)
    (inputs : List Input) :
    invariant (machine.trace start inputs) (machine.after start inputs) := by
  induction inputs using List.reverseRecOn with
  | nil =>
      exact initially
  | append_singleton inputs last inductionHypothesis =>
      rw [trace_concat, after_concat]
      exact preserved _ _ _ inductionHypothesis

/--
A law that follows at each step from a history invariant and a condition holds
at every step of a run whose steps all meet the condition.
-/
theorem everyStep_of_invariant
    {start : State}
    {condition law :
      List (Event State Input Output) → Event State Input Output → Prop}
    (invariant : List (Event State Input Output) → State → Prop)
    (initially : invariant [] start)
    (preserved :
      ∀ earlier state input,
        invariant earlier state →
        condition earlier (machine.event state input) →
        invariant (earlier ++ [machine.event state input])
          (machine.event state input).target)
    (guaranteed :
      ∀ earlier state input,
        invariant earlier state →
        condition earlier (machine.event state input) →
        law earlier (machine.event state input))
    (inputs : List Input)
    (conditioned : EveryStep condition (machine.trace start inputs)) :
    EveryStep law (machine.trace start inputs) := by
  induction inputs using List.reverseRecOn with
  | nil =>
      exact EveryStep.nil
  | append_singleton inputs last inductionHypothesis =>
      rw [trace_concat] at conditioned ⊢
      obtain ⟨before, atLast⟩ := (EveryStep.concat_iff _ _).1 conditioned
      refine (EveryStep.concat_iff _ _).2 ⟨inductionHypothesis before, ?_⟩
      exact guaranteed _ _ _
        (machine.invariant_after
          invariant initially preserved inputs before)
        atLast

/-- An invariant that every step keeps holds in every state of every run. -/
theorem invariant_of_step
    {start : State}
    (invariant : State → Prop)
    (initially : invariant start)
    (preserved :
      ∀ state input,
        invariant state → invariant (machine.step state input).1)
    (inputs : List Input) :
    invariant (machine.after start inputs) := by
  induction inputs generalizing start with
  | nil =>
      exact initially
  | cons input rest inductionHypothesis =>
      exact inductionHypothesis (preserved start input initially)

/--
Two states in a relation that every admissible input keeps, and in which every
admissible input is observed alike, are observed alike over every run of
admissible inputs.
-/
theorem trace_map_eq_of_lockstep
    {Observed : Type*}
    (observe : Event State Input Output → Observed)
    (relation : State → State → Prop)
    {admissible : Input → Prop}
    (lockstep :
      ∀ left right input,
        admissible input →
        relation left right →
          observe (machine.event left input) =
              observe (machine.event right input) ∧
            relation (machine.step left input).1
              (machine.step right input).1)
    {left right : State}
    (related : relation left right)
    (inputs : List Input)
    (admitted : ∀ input ∈ inputs, admissible input) :
    (machine.trace left inputs).map observe =
      (machine.trace right inputs).map observe := by
  induction inputs generalizing left right with
  | nil =>
      rfl
  | cons input rest inductionHypothesis =>
      obtain ⟨first, others⟩ := List.forall_mem_cons.1 admitted
      obtain ⟨alike, next⟩ := lockstep left right input first related
      simp only [trace, List.map_cons]
      rw [alike, inductionHypothesis next others]

end Machine

end Usac.Library
