import Mathlib.Logic.Relation
import Usac.Library.Machine

namespace Usac.Library

/-!
# Code that is interrupted

The main line of a program as a tree of atomic actions, and around each of them
whatever interrupts and peripherals do to the state they share. An assertion
that nothing around the main line can break is carried through it action by
action, and what is proved so holds after every interleaved run.
-/

variable {State Answer Result Next Disturbance : Type}

/-- A piece of the main line. It changes the shared state, looks at it, asks the
environment for a value, or waits for ever. -/
inductive Code (State Answer Result : Type) where
  | give (result : Result)
  | act (change : State → State) (next : Code State Answer Result)
  | look (next : State → Code State Answer Result)
  | ask (next : Answer → Code State Answer Result)
  | hang

namespace Code

/-- One piece after the other. -/
def bind :
    Code State Answer Result →
      (Result → Code State Answer Next) → Code State Answer Next
  | give result, next => next result
  | act change rest, next => act change (bind rest next)
  | look rest, next => look fun state => bind (rest state) next
  | ask rest, next => ask fun answer => bind (rest answer) next
  | hang, _ => hang

instance : Monad (Code State Answer) where
  pure := give
  bind := bind

/-- One action. -/
def perform (change : State → State) : Code State Answer Unit :=
  act change (give ())

/-- The shared state at one moment. -/
def read : Code State Answer State :=
  look give

/-- A value of the environment. -/
def request : Code State Answer Answer :=
  ask give

/-- Some actions, one after the other. -/
def performAll : List (State → State) → Code State Answer Unit
  | [] => give ()
  | change :: rest => act change (performAll rest)

end Code

/-! ## Assertions -/

/-- What happens around the main line cannot break the assertion. -/
def Stable (around : State → State → Prop) (holds : State → Prop) : Prop :=
  ∀ state next, around state next → holds state → holds next

/-- A stable assertion survives any number of disturbances. -/
theorem Stable.reaches
    {around : State → State → Prop}
    {holds : State → Prop}
    (stable : Stable around holds)
    {state next : State}
    (reaches : Relation.ReflTransGen around state next)
    (here : holds state) :
    holds next := by
  induction reaches with
  | refl => exact here
  | tail _ disturbs inductionHypothesis =>
      exact stable _ _ disturbs inductionHypothesis

/-- What is not about the state is stable. -/
theorem Stable.const
    {around : State → State → Prop}
    (fact : Prop) :
    Stable around fun _ => fact :=
  fun _ _ _ => id

/-- Two stable assertions. -/
theorem Stable.and
    {around : State → State → Prop}
    {first second : State → Prop}
    (firstStable : Stable around first)
    (secondStable : Stable around second) :
    Stable around fun state => first state ∧ second state :=
  fun state next disturbs here =>
    ⟨firstStable state next disturbs here.1,
      secondStable state next disturbs here.2⟩

namespace Code

variable {around : State → State → Prop}

/-- From the state on, wherever the code is disturbed, it returns only with the
postcondition. -/
def Ensures (around : State → State → Prop) :
    Code State Answer Result → (Result → State → Prop) → State → Prop
  | give result, post, state =>
      ∀ now, Relation.ReflTransGen around state now → post result now
  | act change next, post, state =>
      ∀ now, Relation.ReflTransGen around state now →
        Ensures around next post (change now)
  | look next, post, state =>
      ∀ now, Relation.ReflTransGen around state now →
        Ensures around (next now) post now
  | ask next, post, state =>
      ∀ answer now, Relation.ReflTransGen around state now →
        Ensures around (next answer) post now
  | hang, _, _ => True

/-- From every state with the precondition, the code returns only with the
postcondition. -/
def Holds
    (around : State → State → Prop)
    (pre : State → Prop)
    (code : Code State Answer Result)
    (post : Result → State → Prop) :
    Prop :=
  ∀ state, pre state → Ensures around code post state

namespace Ensures

variable {code : Code State Answer Result} {post : Result → State → Prop}
  {state now : State}

/-- A disturbance before the code changes nothing about it. -/
theorem disturbed
    (ensures : Ensures around code post state)
    (reaches : Relation.ReflTransGen around state now) :
    Ensures around code post now := by
  cases code with
  | give result =>
      exact fun later after => ensures later (reaches.trans after)
  | act change next =>
      exact fun later after => ensures later (reaches.trans after)
  | look next =>
      exact fun later after => ensures later (reaches.trans after)
  | ask next =>
      exact fun answer later after => ensures answer later (reaches.trans after)
  | hang => exact trivial

/-- A weaker postcondition. -/
theorem imp
    {weaker : Result → State → Prop}
    (ensures : Ensures around code post state)
    (implies : ∀ result state, post result state → weaker result state) :
    Ensures around code weaker state := by
  induction code generalizing state with
  | give result =>
      exact fun later after => implies result later (ensures later after)
  | act change next inductionHypothesis =>
      exact fun later after => inductionHypothesis (ensures later after)
  | look next inductionHypothesis =>
      exact fun later after => inductionHypothesis later (ensures later after)
  | ask next inductionHypothesis =>
      exact fun answer later after =>
        inductionHypothesis answer (ensures answer later after)
  | hang => exact trivial

/-- Two postconditions. -/
theorem and
    {other : Result → State → Prop}
    (first : Ensures around code post state)
    (second : Ensures around code other state) :
    Ensures around code (fun result now => post result now ∧ other result now)
      state := by
  induction code generalizing state with
  | give result => exact fun later after => ⟨first later after, second later after⟩
  | act change next inductionHypothesis =>
      exact fun later after =>
        inductionHypothesis (first later after) (second later after)
  | look next inductionHypothesis =>
      exact fun later after =>
        inductionHypothesis later (first later after) (second later after)
  | ask next inductionHypothesis =>
      exact fun answer later after =>
        inductionHypothesis answer (first answer later after)
          (second answer later after)
  | hang => exact trivial

/-- One piece after the other. -/
theorem bind
    {next : Result → Code State Answer Next}
    {last : Next → State → Prop}
    (ensures :
      Ensures around code (fun result => Ensures around (next result) last)
        state) :
    Ensures around (code >>= next) last state := by
  induction code generalizing state with
  | give result => exact ensures state .refl
  | act change rest inductionHypothesis =>
      exact fun later after => inductionHypothesis (ensures later after)
  | look rest inductionHypothesis =>
      exact fun later after => inductionHypothesis later (ensures later after)
  | ask rest inductionHypothesis =>
      exact fun answer later after =>
        inductionHypothesis answer (ensures answer later after)
  | hang => exact trivial

end Ensures

namespace Holds

variable {pre stronger : State → Prop} {code : Code State Answer Result}
  {post weaker : Result → State → Prop}

/-- The rule of consequence. -/
theorem imp
    (holds : Holds around pre code post)
    (before : ∀ state, stronger state → pre state)
    (after : ∀ result state, post result state → weaker result state) :
    Holds around stronger code weaker :=
  fun state here => (holds state (before state here)).imp after

/-- Two postconditions. -/
theorem and
    {other : Result → State → Prop}
    (first : Holds around pre code post)
    (second : Holds around pre code other) :
    Holds around pre code fun result state =>
      post result state ∧ other result state :=
  fun state here => (first state here).and (second state here)

/-- One piece after the other. -/
theorem bind
    {next : Result → Code State Answer Next}
    {last : Next → State → Prop}
    (first : Holds around pre code post)
    (second : ∀ result, Holds around (post result) (next result) last) :
    Holds around pre (code >>= next) last :=
  fun state here => ((first state here).imp second).bind

/-- A result. -/
theorem give
    (stable : Stable around pre)
    {result : Result}
    (here : ∀ state, pre state → post result state) :
    Holds around pre (Code.give result : Code State Answer Result) post :=
  fun _ holds now reaches => here now (stable.reaches reaches holds)

/-- One action. -/
theorem perform
    {change : State → State}
    {after : State → Prop}
    (stable : Stable around pre)
    (stableAfter : Stable around after)
    (changes : ∀ state, pre state → after (change state)) :
    Holds around pre (Code.perform change : Code State Answer Unit)
      fun _ => after :=
  fun _ holds now reaches _ onward =>
    stableAfter.reaches onward (changes now (stable.reaches reaches holds))

/-- What is read held at one moment, and the assertion still holds. -/
theorem read (stable : Stable around pre) :
    Holds around pre (Code.read : Code State Answer State)
      fun seen state => pre seen ∧ pre state :=
  fun _ holds _ reaches _ onward =>
    have here := stable.reaches reaches holds
    ⟨here, stable.reaches onward here⟩

/-- What is read holds at the moment it is read. -/
theorem look
    {next : State → Code State Answer Next}
    {last : Next → State → Prop}
    (stable : Stable around pre)
    (each : ∀ state, pre state → Ensures around (next state) last state) :
    Holds around pre (Code.read >>= next) last :=
  fun _ here now reaches => each now (stable.reaches reaches here)

/-- Any value may come from the environment. -/
theorem request (stable : Stable around pre) :
    Holds around pre (Code.request : Code State Answer Answer)
      fun _ => pre :=
  fun _ holds _ _ reaches _ onward =>
    stable.reaches onward (stable.reaches reaches holds)

/-- Actions that all keep an assertion. -/
theorem performAll
    {changes : List (State → State)}
    (stable : Stable around pre)
    (keeps : ∀ change ∈ changes, ∀ state, pre state → pre (change state)) :
    Holds around pre (Code.performAll changes : Code State Answer Unit)
      fun _ => pre := by
  induction changes with
  | nil => exact give stable fun _ => id
  | cons change rest inductionHypothesis =>
      intro state here now reaches
      apply inductionHypothesis
      · exact fun other member => keeps other (List.mem_cons_of_mem _ member)
      · exact keeps change List.mem_cons_self now (stable.reaches reaches here)

/-- The first of some actions, and the others. -/
theorem cons
    {change : State → State}
    {rest : List (State → State)}
    {after : State → Prop}
    (between : State → Prop)
    (stable : Stable around pre)
    (changed : ∀ state, pre state → between (change state))
    (others :
      Holds around between (Code.performAll rest : Code State Answer Unit)
        fun _ => after) :
    Holds around pre
      (Code.performAll (change :: rest) : Code State Answer Unit)
      fun _ => after :=
  fun _ here now reaches =>
    others _ (changed now (stable.reaches reaches here))

/-- Some actions, and some more. -/
theorem append
    {changes others : List (State → State)}
    {after : State → Prop}
    (between : State → Prop)
    (first :
      Holds around pre (Code.performAll changes : Code State Answer Unit)
        fun _ => between)
    (second :
      Holds around between (Code.performAll others : Code State Answer Unit)
        fun _ => after) :
    Holds around pre
      (Code.performAll (changes ++ others) : Code State Answer Unit)
      fun _ => after := by
  intro state here
  have begun := first state here
  clear first here
  induction changes generalizing state with
  | nil => exact second state (begun state .refl)
  | cons change rest inductionHypothesis =>
      exact fun now reaches =>
        inductionHypothesis (change now) (begun now reaches)

/-- Whatever the code does, nothing is claimed. -/
theorem anything
    (code : Code State Answer Result) :
    Holds around (fun _ => True) code fun _ _ => True := by
  intro state _
  induction code generalizing state with
  | give result => exact fun _ _ => trivial
  | act change next inductionHypothesis =>
      exact fun now _ => inductionHypothesis (change now)
  | look next inductionHypothesis =>
      exact fun now _ => inductionHypothesis now now
  | ask next inductionHypothesis =>
      exact fun answer now _ => inductionHypothesis answer now
  | hang => exact trivial

end Holds

/-! ## Runs -/

/-- One action of the main line. -/
def step (answer : Answer) (state : State) :
    Code State Answer Result → State × Code State Answer Result
  | give result => (state, give result)
  | act change next => (change state, next)
  | look next => (state, next state)
  | ask next => (state, next answer)
  | hang => (state, hang)

/-- One action keeps what the code ensures. -/
theorem Ensures.step
    {code : Code State Answer Result}
    {post : Result → State → Prop}
    {state : State}
    (ensures : Ensures around code post state)
    (answer : Answer) :
    Ensures around (code.step answer state).2 post
      (code.step answer state).1 := by
  cases code with
  | give result => exact ensures
  | act change next => exact ensures state .refl
  | look next => exact ensures state .refl
  | ask next => exact ensures answer state .refl
  | hang => exact trivial

end Code

/-- Jobs the main line can be given, and what happens around it. -/
structure Jobs (State Answer Disturbance Job Result : Type) where
  code : Job → Code State Answer Result
  disturb : Disturbance → State → State

namespace Jobs

variable {Job : Type}

/-- The shared state, and what is left of the job the main line is at. -/
structure Status (State Answer Job Result : Type) where
  state : State
  current : Option (Job × Code State Answer Result)

/-- A job is given to the main line, or it takes a turn, or something happens
around it. -/
inductive Input (Answer Disturbance Job : Type) where
  | begin (job : Job)
  | main (answer : Answer)
  | around (disturbance : Disturbance)

/-- One disturbance. -/
def Around
    (jobs : Jobs State Answer Disturbance Job Result)
    (before after : State) :
    Prop :=
  ∃ disturbance, after = jobs.disturb disturbance before

/-- A turn of the main line at a job. -/
def advance
    (state : State)
    (job : Job)
    (answer : Answer) :
    Code State Answer Result →
      Status State Answer Job Result × Option (Job × Result)
  | .give result => (⟨state, none⟩, some (job, result))
  | code =>
      (⟨(code.step answer state).1, some (job, (code.step answer state).2)⟩,
        none)

/-- The main line as a machine. It shows each job that ends with its result. -/
def machine (jobs : Jobs State Answer Disturbance Job Result) :
    Machine (Status State Answer Job Result) (Input Answer Disturbance Job)
      (Option (Job × Result)) where
  step status
    | .begin job =>
        match status.current with
        | none => (⟨status.state, some (job, jobs.code job)⟩, none)
        | some _ => (status, none)
    | .main answer =>
        match status.current with
        | none => (status, none)
        | some (job, code) => advance status.state job answer code
    | .around disturbance =>
        (⟨jobs.disturb disturbance status.state, status.current⟩, none)

/-- Between two jobs an assertion holds, and within one its code ensures the
postcondition. -/
def Settled
    (jobs : Jobs State Answer Disturbance Job Result)
    (idle : State → Prop)
    (post : Job → Result → State → Prop)
    (status : Status State Answer Job Result) :
    Prop :=
  match status.current with
  | none => idle status.state
  | some (job, code) => code.Ensures jobs.Around (post job) status.state

variable {jobs : Jobs State Answer Disturbance Job Result}
  {idle : State → Prop} {post : Job → Result → State → Prop}

/-- A turn at a job. -/
theorem advance_settled
    (settles : ∀ job result state, post job result state → idle state)
    {state : State}
    {job : Job}
    {code : Code State Answer Result}
    (ensures : code.Ensures jobs.Around (post job) state)
    (answer : Answer) :
    jobs.Settled idle post (advance state job answer code).1 ∧
      ∀ done result, (advance state job answer code).2 = some (done, result) →
        post done result (advance state job answer code).1.state := by
  cases code with
  | give result =>
      have ended := ensures state .refl
      refine ⟨settles _ _ _ ended, ?_⟩
      rintro done other ⟨⟩
      exact ended
  | act change next => exact ⟨ensures.step answer, fun _ _ shown => nomatch shown⟩
  | look next => exact ⟨ensures.step answer, fun _ _ shown => nomatch shown⟩
  | ask next => exact ⟨ensures.step answer, fun _ _ shown => nomatch shown⟩
  | hang => exact ⟨trivial, fun _ _ shown => nomatch shown⟩

/-- One step of the machine. -/
theorem step_settled
    (stable : Stable jobs.Around idle)
    (correct : ∀ job, (jobs.code job).Holds jobs.Around idle (post job))
    (settles : ∀ job result state, post job result state → idle state)
    (status : Status State Answer Job Result)
    (settled : jobs.Settled idle post status)
    (input : Input Answer Disturbance Job) :
    jobs.Settled idle post (jobs.machine.step status input).1 ∧
      ∀ job result,
        (jobs.machine.step status input).2 = some (job, result) →
          post job result (jobs.machine.step status input).1.state := by
  obtain ⟨state, current⟩ := status
  cases input with
  | begin job =>
      cases current with
      | none => exact ⟨correct job state settled, fun _ _ shown => nomatch shown⟩
      | some work => exact ⟨settled, fun _ _ shown => nomatch shown⟩
  | main answer =>
      cases current with
      | none => exact ⟨settled, fun _ _ shown => nomatch shown⟩
      | some work => exact advance_settled settles settled answer
  | around disturbance =>
      refine ⟨?_, fun _ _ shown => nomatch shown⟩
      cases current with
      | none => exact stable _ _ ⟨disturbance, rfl⟩ settled
      | some work =>
          exact Code.Ensures.disturbed settled (.single ⟨disturbance, rfl⟩)

/-- In every run, each job ends with its postcondition, and between two jobs
the assertion holds. -/
theorem everyStep_settled
    (stable : Stable jobs.Around idle)
    (correct : ∀ job, (jobs.code job).Holds jobs.Around idle (post job))
    (settles : ∀ job result state, post job result state → idle state)
    {start : State}
    (initially : idle start)
    (inputs : List (Input Answer Disturbance Job)) :
    EveryStep
      (fun _ event =>
        (∀ job result, event.output = some (job, result) →
          post job result event.target.state) ∧
        (event.target.current = none → idle event.target.state))
      (jobs.machine.trace ⟨start, none⟩ inputs) := by
  have begun : jobs.Settled idle post ⟨start, none⟩ := initially
  refine jobs.machine.everyStep_of_invariant
    (fun _ status => jobs.Settled idle post status) begun ?_ ?_ inputs
    (fun _ _ _ _ => trivial : EveryStep (fun _ _ => True) _)
  · exact fun _ status input settled _ =>
      (step_settled stable correct settles status settled input).1
  · intro earlier status input settled _
    obtain ⟨next, ended⟩ :=
      step_settled stable correct settles status settled input
    refine ⟨ended, fun free => ?_⟩
    simp only [Settled] at next
    have none : (jobs.machine.step status input).1.current = none := free
    simp only [none] at next
    exact next

end Jobs

end Usac.Library
