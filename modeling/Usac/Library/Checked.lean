import Mathlib.Data.UInt

namespace Usac.Library

/-!
# Word arithmetic with a check

The machine's sums and differences wrap around. The checked ones have no
result where the machine's would wrap, so a computation that agrees with its
checked form wraps nowhere.
-/

/-- A sum, unless it wraps around. -/
def addChecked? (left right : UInt32) : Option UInt32 :=
  if left.toNat + right.toNat < 2 ^ 32 then some (left + right) else none

/-- A difference, unless it wraps around. -/
def subChecked? (left right : UInt32) : Option UInt32 :=
  if right ≤ left then some (left - right) else none

variable {left right : UInt32}

/-- A sum that fits its word passes the check. -/
theorem addChecked?_eq
    (fits : left.toNat + right.toNat < 2 ^ 32) :
    addChecked? left right = some (left + right) :=
  if_pos fits

/-- A difference passes the check when nothing more is taken than there is. -/
theorem subChecked?_eq
    (fits : right ≤ left) :
    subChecked? left right = some (left - right) :=
  if_pos fits

end Usac.Library
