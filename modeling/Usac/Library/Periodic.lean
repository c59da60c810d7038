import Mathlib.Data.Nat.Basic
import Mathlib.Tactic.Linarith

namespace Usac.Library.Periodic

/-!
# A countdown with a period

A countdown starts at its period, runs down with time and is set again each
time it reaches zero. After a time `time` it has fired `fires period time`
times and has `remaining period time` left. An implementation that only keeps
what is left advances it with a carry; the lemmas here say that the carry
computes the two functions.
-/

/-- How often the countdown has fired after a time. -/
def fires (period time : Nat) : Nat :=
  time / period

/-- What is left of the countdown after a time. -/
def remaining (period time : Nat) : Nat :=
  period - time % period

variable {period time elapsed : Nat}

@[simp] theorem fires_zero : fires period 0 = 0 :=
  Nat.zero_div period

@[simp] theorem remaining_zero : remaining period 0 = period := by
  simp [remaining]

/-- Something is always left. -/
theorem remaining_pos (periodic : 0 < period) : 0 < remaining period time :=
  Nat.sub_pos_of_lt (Nat.mod_lt time periodic)

/-- No more than the period is left. -/
theorem remaining_le : remaining period time ≤ period :=
  Nat.sub_le _ _

/-- The time that has passed, with what is left of the current round, is a
whole number of rounds. -/
theorem add_remaining (periodic : 0 < period) :
    time + remaining period time = (fires period time + 1) * period := by
  have split : period * (time / period) + time % period = time :=
    Nat.div_add_mod time period
  have below : time % period < period := Nat.mod_lt time periodic
  rw [remaining, fires, Nat.add_mul, Nat.one_mul, Nat.mul_comm]
  omega

/-- A time shorter than what is left is taken from it. -/
theorem remaining_add_of_lt
    (periodic : 0 < period)
    (within : elapsed < remaining period time) :
    remaining period (time + elapsed) = remaining period time - elapsed ∧
      fires period (time + elapsed) = fires period time := by
  have below : time % period < period := Nat.mod_lt time periodic
  have inside : time % period + elapsed < period := by
    unfold remaining at within
    omega
  have regrouped :
      time + elapsed =
        time % period + elapsed + period * (time / period) := by
    have split := Nat.mod_add_div time period
    omega
  constructor
  · rw [remaining, regrouped, Nat.add_mul_mod_self_left,
      Nat.mod_eq_of_lt inside, remaining, Nat.sub_add_eq]
  · rw [fires, regrouped, Nat.add_mul_div_left _ _ periodic,
      Nat.div_eq_of_lt inside, Nat.zero_add, fires]

/-- A longer time fires once, and the rest of it is counted from there. -/
theorem remaining_add_of_le
    (periodic : 0 < period)
    (beyond : remaining period time ≤ elapsed) :
    remaining period (time + elapsed) =
        period - (elapsed - remaining period time) % period ∧
      fires period (time + elapsed) =
        fires period time +
          (1 + (elapsed - remaining period time) / period) := by
  have whole := @add_remaining period time periodic
  have regrouped :
      time + elapsed =
        elapsed - remaining period time +
          period * (fires period time + 1) := by
    rw [Nat.mul_comm] at whole
    omega
  constructor
  · rw [remaining, regrouped, Nat.add_mul_mod_self_left]
  · rw [fires, regrouped, Nat.add_mul_div_left _ _ periodic]
    omega

/-- Firing does not go backwards. -/
theorem fires_le_add : fires period time ≤ fires period (time + elapsed) :=
  Nat.div_le_div_right (Nat.le_add_right _ _)

end Usac.Library.Periodic
