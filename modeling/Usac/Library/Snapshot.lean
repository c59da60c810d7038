import Usac.Library.Machine

namespace Usac.Library

/-!
# Reading from a snapshot

A reader pins the state of a store that goes on changing, and makes one item
after another of the rows it has asked for. Whatever happens to the store in
between, the reader ends with what it would have made of them all at once when
it began, or fails as it would have failed then.
-/

variable {Store Input Output Request Header Row Item Raised : Type}

/-- What a reader asks a store for, and what it makes of each row. -/
structure Query (Store Request Header Row Item Raised : Type) where
  find : Store → Request → Except Raised (Header × List Row)
  item : Store → Header → Row → Except Raised Item

/-- A read that has begun. -/
structure Reading (Store Header Row Item : Type) where
  pinned : Store
  header : Header
  items : List Item
  remaining : List Row

/-- A store and what is being read from it. -/
structure Watched (Store Header Row Item : Type) where
  store : Store
  reading : Option (Reading Store Header Row Item)

namespace Query

/-- The store changes, a read begins, or the next row is read. -/
inductive Turn (Input Request : Type) where
  | write (input : Input)
  | start (request : Request)
  | next

/-- What comes of a turn. -/
inductive Outcome (Output Header Item Raised : Type) where
  | wrote (output : Output)
  | started (header : Header)
  | made (item : Item)
  | finished (header : Header) (items : List Item)
  | failed (raised : Raised)
  | idle

variable (query : Query Store Request Header Row Item Raised)
  (machine : Machine Store Input Output)

/-- A read begins, unless there is one. -/
def start
    (state : Watched Store Header Row Item)
    (request : Request) :
    Watched Store Header Row Item × Outcome Output Header Item Raised :=
  match state.reading with
  | some _ => (state, .idle)
  | none =>
      match query.find state.store request with
      | .error raised => (state, .failed raised)
      | .ok (header, rows) =>
          ({ state with reading := some ⟨state.store, header, [], rows⟩ },
            .started header)

/-- The next row is read from what has been pinned. -/
def next
    (state : Watched Store Header Row Item) :
    Watched Store Header Row Item × Outcome Output Header Item Raised :=
  match state.reading with
  | none => (state, .idle)
  | some reading =>
      match reading.remaining with
      | [] =>
          ({ state with reading := none },
            .finished reading.header reading.items)
      | row :: rest =>
          match query.item reading.pinned reading.header row with
          | .error raised => ({ state with reading := none }, .failed raised)
          | .ok item =>
              ({ state with
                  reading := some { reading with
                    items := reading.items ++ [item]
                    remaining := rest } },
                .made item)

/-- The store and its reader as a machine. -/
def watch :
    Machine (Watched Store Header Row Item) (Turn Input Request)
      (Outcome Output Header Item Raised) where
  step state
    | .write input =>
        ({ state with store := (machine.step state.store input).1 },
          .wrote (machine.step state.store input).2)
    | .start request => query.start state request
    | .next => query.next state

/-- A read that begins leaves the store. -/
theorem store_start
    (state : Watched Store Header Row Item)
    (request : Request) :
    ((query.watch machine).step state (.start request)).1.store =
      state.store := by
  show (query.start state request).1.store = state.store
  unfold start
  cases state.reading with
  | some reading => rfl
  | none =>
      dsimp only
      cases query.find state.store request <;> rfl

/-- A row that is read leaves the store. -/
theorem store_next (state : Watched Store Header Row Item) :
    ((query.watch machine).step state .next).1.store = state.store := by
  show (query.next state).1.store = state.store
  unfold next
  cases state.reading with
  | none => rfl
  | some reading =>
      dsimp only
      cases reading.remaining with
      | nil => rfl
      | cons row rest =>
          dsimp only
          cases query.item reading.pinned reading.header row <;> rfl

/-- One recorded turn. -/
abbrev Recorded (Store Input Output Request Header Row Item Raised : Type) :=
  Event (Watched Store Header Row Item) (Turn Input Request)
    (Outcome Output Header Item Raised)

/-- A read has begun at one of the recorded turns. It has found the rows there
were, and all at once they would have given this result. -/
def Began
    (record : List
      (Recorded Store Input Output Request Header Row Item Raised))
    (header : Header)
    (result : Except Raised (List Item)) :
    Prop :=
  ∃ turn ∈ record,
    ∃ request rows,
      turn.input = .start request ∧
        query.find turn.source.store request = .ok (header, rows) ∧
          rows.mapM (query.item turn.source.store header) = result

/-- What ends a read is the result it would have had at once when it began. -/
structure AsBegun
    (record : List
      (Recorded Store Input Output Request Header Row Item Raised))
    (turn : Recorded Store Input Output Request Header Row Item Raised) :
    Prop where
  finished :
    ∀ header items,
      turn.output = .finished header items →
        query.Began record header (.ok items)
  failed :
    ∀ raised,
      turn.input = .next → turn.output = .failed raised →
        ∃ header, query.Began record header (.error raised)

/-- A read has made what it has made of the first of its rows, and all of them
are those that were there when it began. -/
structure Consistent
    (record : List
      (Recorded Store Input Output Request Header Row Item Raised))
    (reading : Reading Store Header Row Item) :
    Prop where
  begun :
    ∃ turn ∈ record,
      ∃ request done,
        turn.input = .start request ∧ turn.source.store = reading.pinned ∧
          query.find reading.pinned request =
              .ok (reading.header, done ++ reading.remaining) ∧
            done.mapM (query.item reading.pinned reading.header) =
              .ok reading.items

variable {query machine}
  {record : List (Recorded Store Input Output Request Header Row Item Raised)}

/-- One more item is made. -/
theorem mapM_concat
    {make : Row → Except Raised Item}
    {rows : List Row}
    {items : List Item}
    (made : rows.mapM make = .ok items)
    {row : Row}
    {item : Item}
    (makes : make row = .ok item) :
    (rows ++ [row]).mapM make = .ok (items ++ [item]) := by
  rw [List.mapM_append, made, List.mapM_cons, List.mapM_nil, makes]
  rfl

/-- A row of which nothing can be made ends it all. -/
theorem mapM_fails
    {make : Row → Except Raised Item}
    {rows : List Row}
    {items : List Item}
    (made : rows.mapM make = .ok items)
    {row : Row}
    {raised : Raised}
    (fails : make row = .error raised)
    (rest : List Row) :
    (rows ++ row :: rest).mapM make = .error raised := by
  rw [List.mapM_append, made, List.mapM_cons, fails]
  rfl

/-- A read goes on among more turns. -/
theorem Consistent.mono
    {reading : Reading Store Header Row Item}
    (consistent : query.Consistent record reading)
    (last : Recorded Store Input Output Request Header Row Item Raised) :
    query.Consistent (record ++ [last]) reading := by
  obtain ⟨turn, member, begun⟩ := consistent.begun
  exact ⟨turn, List.mem_append_left _ member, begun⟩

/-- What a turn does. -/
inductive Takes
    (query : Query Store Request Header Row Item Raised)
    (machine : Machine Store Input Output)
    (state : Watched Store Header Row Item) :
    Turn Input Request → Watched Store Header Row Item →
      Outcome Output Header Item Raised → Prop where
  | wrote (input : Input) (output : Output) (store : Store) :
      Takes query machine state (.write input) { state with store := store }
        (.wrote output)
  | unmoved (turn : Turn Input Request) :
      Takes query machine state turn state .idle
  | notFound (request : Request) (raised : Raised) :
      Takes query machine state (.start request) state (.failed raised)
  | started
      (request : Request)
      (header : Header)
      (rows : List Row)
      (found : query.find state.store request = .ok (header, rows)) :
      Takes query machine state (.start request)
        { state with reading := some ⟨state.store, header, [], rows⟩ }
        (.started header)
  | finished
      (reading : Reading Store Header Row Item)
      (under : state.reading = some reading)
      (nothing : reading.remaining = []) :
      Takes query machine state .next { state with reading := none }
        (.finished reading.header reading.items)
  | failed
      (reading : Reading Store Header Row Item)
      (under : state.reading = some reading)
      (row : Row)
      (rest : List Row)
      (left : reading.remaining = row :: rest)
      (raised : Raised)
      (fails :
        query.item reading.pinned reading.header row = .error raised) :
      Takes query machine state .next { state with reading := none }
        (.failed raised)
  | made
      (reading : Reading Store Header Row Item)
      (under : state.reading = some reading)
      (row : Row)
      (rest : List Row)
      (left : reading.remaining = row :: rest)
      (item : Item)
      (makes : query.item reading.pinned reading.header row = .ok item) :
      Takes query machine state .next
        { state with
          reading := some { reading with
            items := reading.items ++ [item]
            remaining := rest } }
        (.made item)

/-- Every turn does one of these. -/
theorem takes
    (state : Watched Store Header Row Item)
    (turn : Turn Input Request) :
    Takes query machine state turn ((query.watch machine).step state turn).1
      ((query.watch machine).step state turn).2 := by
  cases turn with
  | write input => exact .wrote input _ _
  | start request =>
      show Takes query machine state _ (query.start state request).1
        (query.start state request).2
      unfold start
      cases state.reading with
      | some reading => exact .unmoved _
      | none =>
          cases found : query.find state.store request with
          | error raised => exact .notFound request raised
          | ok result => exact .started request result.1 result.2 found
  | next =>
      show Takes query machine state _ (query.next state).1 (query.next state).2
      unfold next
      cases under : state.reading with
      | none => exact .unmoved _
      | some reading =>
          dsimp only
          cases left : reading.remaining with
          | nil => exact .finished reading under left
          | cons row rest =>
              dsimp only
              cases makes : query.item reading.pinned reading.header row with
              | error raised =>
                  exact .failed reading under row rest left raised makes
              | ok item => exact .made reading under row rest left item makes

section Turns

variable
  {turn : Recorded Store Input Output Request Header Row Item Raised}
  (taken : Takes query machine turn.source turn.input turn.target turn.output)
  (before :
    ∀ reading, turn.source.reading = some reading →
      query.Consistent record reading)

include taken before

/-- Every turn keeps the read consistent. -/
theorem Takes.consistent
    {reading : Reading Store Header Row Item}
    (held : turn.target.reading = some reading) :
    query.Consistent (record ++ [turn]) reading := by
  obtain ⟨state, input, output, target⟩ := turn
  dsimp only at taken before held
  cases taken with
  | wrote => exact (before reading held).mono _
  | unmoved => exact (before reading held).mono _
  | notFound => exact (before reading held).mono _
  | started request header rows found =>
      cases held
      exact ⟨_, List.mem_append_right _ List.mem_cons_self, request, [], rfl,
        rfl, found, rfl⟩
  | finished => cases held
  | failed => cases held
  | made old under row rest left item makes =>
      cases held
      obtain ⟨turn, member, request, done, starts, pinned, found, items⟩ :=
        (before old under).begun
      refine ⟨turn, List.mem_append_left _ member, request, done ++ [row],
        starts, pinned, ?_, mapM_concat items makes⟩
      rw [found, left, List.append_cons]

/-- What a consistent read ends with is what it would have had at once. -/
theorem Takes.asBegun : query.AsBegun record turn := by
  obtain ⟨state, input, output, target⟩ := turn
  dsimp only at taken before
  constructor
  · rintro header items ⟨⟩
    cases taken with
    | finished reading under nothing =>
        obtain ⟨turn, member, request, done, starts, pinned, found, items⟩ :=
          (before reading under).begun
        rw [nothing, List.append_nil, ← pinned] at found
        rw [← pinned] at items
        exact ⟨turn, member, request, done, starts, found, items⟩
  · rintro raised ⟨⟩ ⟨⟩
    cases taken with
    | failed reading under row rest left _ fails =>
        obtain ⟨turn, member, request, done, starts, pinned, found, items⟩ :=
          (before reading under).begun
        rw [left, ← pinned] at found
        rw [← pinned] at items fails
        exact ⟨reading.header, turn, member, request, _, starts, found,
          mapM_fails items fails rest⟩

end Turns

/-- In every run, whatever is written in between, what ends a read is the result
it would have had at once when it began. -/
theorem everyStep_asBegun
    (store : Store)
    (turns : List (Turn Input Request)) :
    EveryStep query.AsBegun
      ((query.watch machine).trace ⟨store, none⟩ turns) :=
  (query.watch machine).everyStep_of_invariant
    (fun record state =>
      ∀ reading, state.reading = some reading →
        query.Consistent record reading)
    (fun _ held => (by cases held))
    (fun _ state turn consistent _ _ held =>
      (takes state turn).consistent consistent held)
    (fun _ state turn consistent _ => (takes state turn).asBegun consistent)
    turns (fun _ _ _ _ => trivial)

end Query

end Usac.Library
