import Usac.Library.Machine

namespace Usac.Library

/-!
# One machine told as another

A narrator reads the record of one machine and tells it as a record of another
one, with whatever it has to remember on the way. When every step is told as a
run between the abstractions of its two states, whole runs are told as runs, and
what holds of every run of the other machine holds of what is told.
-/

variable {State Input Output Recorded Memory Shown : Type*}

namespace Machine

variable (machine : Machine State Input Output)

/-- The events are those of a run between the states. Each of them is
admissible, and together they show what is visible. -/
structure Explains
    (admissible : Event State Input Output → Prop)
    (shown : Event State Input Output → List Shown)
    (source target : State)
    (events : List (Event State Input Output))
    (visible : List Shown) :
    Prop where
  recorded : machine.trace source (events.map Event.input) = events
  reached : machine.after source (events.map Event.input) = target
  admitted : ∀ event ∈ events, admissible event
  visible : events.flatMap shown = visible

namespace Explains

variable {machine : Machine State Input Output}
  {admissible : Event State Input Output → Prop}
  {shown : Event State Input Output → List Shown}
  {source middle target : State}
  {first second : List (Event State Input Output)}
  {before after : List Shown}

/-- Nothing happens in a run without events. -/
theorem nil :
    machine.Explains admissible shown source source [] [] where
  recorded := rfl
  reached := rfl
  admitted _ member := by cases member
  visible := rfl

/-- A single step is a run. -/
theorem single
    (input : Input)
    (admitted : admissible (machine.event source input)) :
    machine.Explains admissible shown source (machine.event source input).target
      [machine.event source input] (shown (machine.event source input)) where
  recorded := rfl
  reached := rfl
  admitted := by simpa using admitted
  visible := by simp

/-- One run behind another is a run. -/
theorem append
    (earlier :
      machine.Explains admissible shown source middle first before)
    (later :
      machine.Explains admissible shown middle target second after) :
    machine.Explains admissible shown source target (first ++ second)
      (before ++ after) where
  recorded := by
    rw [List.map_append, trace_append, earlier.recorded, earlier.reached,
      later.recorded]
  reached := by
    rw [List.map_append, after_append, earlier.reached, later.reached]
  admitted event member := by
    rcases List.mem_append.1 member with atFirst | atSecond
    · exact earlier.admitted event atFirst
    · exact later.admitted event atSecond
  visible := by
    rw [List.flatMap_append, earlier.visible, later.visible]

end Explains

end Machine

/-- How the record of one machine is told as a record of another one. -/
structure Narrator (Memory Recorded Told : Type*) where
  initial : Memory
  tell : Memory → Recorded → List Told
  remember : Memory → Recorded → Memory

namespace Narrator

variable {Told : Type*}

/-- What is told of a record, from some memory on. -/
def story (narrator : Narrator Memory Recorded Told) :
    Memory → List Recorded → List Told
  | _, [] => []
  | memory, event :: rest =>
      narrator.tell memory event ++
        narrator.story (narrator.remember memory event) rest

/-- What is told of a record. -/
def told
    (narrator : Narrator Memory Recorded Told)
    (events : List Recorded) :
    List Told :=
  narrator.story narrator.initial events

section Refinement

variable {Abstract AbstractInput AbstractOutput : Type*}
  {machine : Machine State Input Output}
  {coarse : Machine Abstract AbstractInput AbstractOutput}
  {narrator :
    Narrator Memory (Event State Input Output)
      (Event Abstract AbstractInput AbstractOutput)}

/--
A machine whose conditioned steps are told as runs of another one is told as a
run of it: from the abstraction of the first state to that of the last one.
-/
theorem story_explains
    {condition : Event State Input Output → Prop}
    {admissible : Event Abstract AbstractInput AbstractOutput → Prop}
    {shown : Event Abstract AbstractInput AbstractOutput → List Shown}
    (visible : Event State Input Output → List Shown)
    (abstraction : State → Abstract)
    (invariant : Memory → State → Prop)
    (step :
      ∀ memory state input,
        invariant memory state →
        condition (machine.event state input) →
        invariant (narrator.remember memory (machine.event state input))
            (machine.event state input).target ∧
          coarse.Explains admissible shown (abstraction state)
            (abstraction (machine.event state input).target)
            (narrator.tell memory (machine.event state input))
            (visible (machine.event state input)))
    {memory : Memory}
    {state : State}
    (initially : invariant memory state)
    (inputs : List Input)
    (conditioned :
      ∀ event ∈ machine.trace state inputs, condition event) :
    coarse.Explains admissible shown (abstraction state)
      (abstraction (machine.after state inputs))
      (narrator.story memory (machine.trace state inputs))
      ((machine.trace state inputs).flatMap visible) := by
  induction inputs generalizing memory state with
  | nil =>
      exact .nil
  | cons input rest inductionHypothesis =>
      obtain ⟨first, others⟩ := List.forall_mem_cons.1 conditioned
      obtain ⟨kept, explained⟩ := step memory state input initially first
      exact explained.append (inductionHypothesis kept others)

end Refinement

end Narrator

end Usac.Library
