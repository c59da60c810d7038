import Mathlib.Data.List.Basic
import Mathlib.Tactic.TypeStar

namespace Usac.Library

/-!
# Reading delimited wires from a stream

A reader that computes from what it holds of a wire how long the wire is at
least, and never asks for more. Such a reader cuts a stream of wires back into
its wires, whatever pieces the stream arrives in, and it stays in step when the
stream ends within a wire.
-/

variable {Symbol : Type*}

/-- A wire whose length the reader never overshoots and never reaches before
its end. -/
structure Delimited
    (expected : List Symbol → Nat)
    (wire : List Symbol) :
    Prop where
  unfinished :
    ∀ held, held <+: wire → held ≠ wire → held.length < expected held
  within :
    ∀ held, held <+: wire ∨ wire <+: held → expected held ≤ wire.length

/-- The stream continues what is held with whole wires of a kind. It may end
within a wire when nobody writes to it any more. -/
def InStep
    (kind : List Symbol → Prop)
    (written : Prop)
    (held stream : List Symbol) :
    Prop :=
  ∃ wires : List (List Symbol),
    (∀ wire ∈ wires, kind wire) ∧
      held ++ stream <+: wires.flatten ∧
      (written → held ++ stream = wires.flatten)

namespace InStep

variable {kind other : List Symbol → Prop} {written : Prop}
  {held stream : List Symbol}

/-- Nothing is held and nothing is on its way. -/
theorem nil : InStep kind written ([] : List Symbol) [] :=
  ⟨[], nofun, List.prefix_rfl, fun _ => rfl⟩

/-- The wires are of a wider kind. -/
theorem mono
    (inStep : InStep kind written held stream)
    (wider : ∀ wire, kind wire → other wire) :
    InStep other written held stream := by
  obtain ⟨wires, ofKind, continues, exactly⟩ := inStep
  exact ⟨wires, fun wire member => wider wire (ofKind wire member), continues,
    exactly⟩

/-- A whole wire is written. -/
theorem write
    (inStep : InStep kind written held stream)
    (isWritten : written)
    {wire : List Symbol}
    (ofKind : kind wire)
    (next : Prop) :
    InStep kind next held (stream ++ wire) := by
  obtain ⟨wires, before, -, exactly⟩ := inStep
  have whole : held ++ (stream ++ wire) = (wires ++ [wire]).flatten := by
    rw [← List.append_assoc, exactly isWritten]
    simp
  refine ⟨wires ++ [wire], ?_, whole ▸ List.prefix_rfl, fun _ => whole⟩
  intro written member
  rcases List.mem_append.1 member with old | new
  · exact before written old
  · obtain rfl := List.mem_singleton.1 new
    exact ofKind

/-- Only the front of a wire is written, and nothing after it. -/
theorem cut
    (inStep : InStep kind written held stream)
    (isWritten : written)
    {wire front : List Symbol}
    (ofKind : kind wire)
    (isFront : front <+: wire)
    {next : Prop}
    (closed : ¬next) :
    InStep kind next held (stream ++ front) := by
  obtain ⟨wires, all, whole, -⟩ := inStep.write isWritten ofKind True
  refine ⟨wires, all, List.IsPrefix.trans ?_ whole, fun isNext =>
    absurd isNext closed⟩
  rw [← List.append_assoc, ← List.append_assoc]
  exact (List.prefix_append_right_inj _).2 isFront

/-- Who writes afterwards has written before. -/
theorem weaken
    (inStep : InStep kind written held stream)
    {next : Prop}
    (implies : next → written) :
    InStep kind next held stream := by
  obtain ⟨wires, ofKind, continues, exactly⟩ := inStep
  exact ⟨wires, ofKind, continues, fun isNext => exactly (implies isNext)⟩

/-- What is taken off the stream is held. -/
theorem advance
    {chunk : List Symbol}
    (inStep : InStep kind written held stream)
    (taken : chunk <+: stream) :
    InStep kind written (held ++ chunk) (stream.drop chunk.length) := by
  obtain ⟨rest, rfl⟩ := taken
  obtain ⟨wires, ofKind, continues, exactly⟩ := inStep
  refine ⟨wires, ofKind, ?_, fun isWritten => ?_⟩
  · simpa using continues
  · simpa using exactly isWritten

/-- A reader that asks for no more than it expects holds the front of one wire.
Once it holds the whole wire, the stream goes on with the next. -/
theorem reads
    {expected : List Symbol → Nat}
    {chunk : List Symbol}
    (inStep : InStep kind written held stream)
    (delimited : ∀ wire, kind wire → Delimited expected wire)
    (taken : chunk <+: stream)
    (read : chunk ≠ [])
    (asked : chunk.length ≤ expected held - held.length) :
    ∃ wire, kind wire ∧ held ++ chunk <+: wire ∧
      (held ++ chunk = wire →
        InStep kind written [] (stream.drop chunk.length)) := by
  obtain ⟨wires, ofKind, continues, exactly⟩ := inStep.advance taken
  have longer : held.length < expected held := by
    have := List.length_pos_of_ne_nil read
    omega
  rcases wires with _ | ⟨wire, wires⟩
  · have nothing := List.prefix_nil.1 continues
    simp [read] at nothing
  have wireOfKind := ofKind wire List.mem_cons_self
  have fronts : held <+: wire ++ wires.flatten :=
    (List.prefix_append held chunk).trans
      ((List.prefix_append _ _).trans continues)
  -- A held wire that were whole would not be expected to go on.
  have started : expected held ≤ wire.length := by
    apply (delimited wire wireOfKind).within held
    rcases Nat.le_total held.length wire.length with shorter | longer
    · exact .inl (List.prefix_of_prefix_length_le fronts
        (List.prefix_append _ _) shorter)
    · exact .inr (List.prefix_of_prefix_length_le (List.prefix_append _ _)
        fronts longer)
  have front : held ++ chunk <+: wire := by
    apply List.prefix_of_prefix_length_le
      ((List.prefix_append _ _).trans continues) (List.prefix_append _ _)
    simp only [List.length_append]
    omega
  refine ⟨wire, wireOfKind, front, ?_⟩
  rintro rfl
  refine ⟨wires, fun next member => ofKind next (List.mem_cons_of_mem _ member),
    ?_, fun isWritten => ?_⟩
  · exact (List.prefix_append_right_inj _).1 continues
  · exact List.append_cancel_left (exactly isWritten)

end InStep

end Usac.Library
