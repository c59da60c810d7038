import Mathlib.Data.Int.Bitwise
import Mathlib.Data.Nat.Bitwise

namespace Usac.Library.Packing

/-!
# Fields packed into integers

A field of a register is a mask and the position of its lowest bit. The
integers are unbounded and in two's complement, so a complement has infinitely
many bits, and two integers are equal when all their bits are. Packing a code
writes the bits under the mask and leaves the others alone.
-/

/-- Zero has no bits. -/
theorem testBit_zero (index : Nat) : (0 : Int).testBit index = false :=
  Nat.zero_testBit index

/-- Integers are equal when all their bits are. -/
theorem eq_of_testBit
    {left right : Int}
    (same : ∀ index, left.testBit index = right.testBit index) :
    left = right := by
  have apart (first second : Nat) :
      ∃ index, first.testBit index ≠ !second.testBit index := by
    have below : first < 2 ^ (first + second) ∧ second < 2 ^ (first + second) :=
      ⟨(Nat.lt_two_pow_self).trans_le
          (Nat.pow_le_pow_right (by decide) (Nat.le_add_right _ _)),
        (Nat.lt_two_pow_self).trans_le
          (Nat.pow_le_pow_right (by decide) (Nat.le_add_left _ _))⟩
    refine ⟨first + second, ?_⟩
    rw [Nat.testBit_lt_two_pow below.1, Nat.testBit_lt_two_pow below.2]
    exact Bool.false_ne_true
  cases left with
  | ofNat first =>
      cases right with
      | ofNat second =>
          exact congrArg Int.ofNat (Nat.eq_of_testBit_eq same)
      | negSucc second =>
          obtain ⟨index, different⟩ := apart first second
          exact absurd (same index) different
  | negSucc first =>
      cases right with
      | ofNat second =>
          obtain ⟨index, different⟩ := apart second first
          exact absurd (same index).symm different
      | negSucc second =>
          have bits (index : Nat) :
              first.testBit index = second.testBit index :=
            Bool.not_inj (same index)
          exact congrArg Int.negSucc (Nat.eq_of_testBit_eq bits)

/-- The bits of an integer that is shifted to the left. -/
theorem testBit_shiftLeft (value : Int) (shift index : Nat) :
    (value <<< shift).testBit index =
      (decide (shift ≤ index) && value.testBit (index - shift)) := by
  induction shift generalizing index with
  | zero =>
      simp
  | succ shift inductionHypothesis =>
      have doubled : value <<< (shift + 1) = Int.bit false (value <<< shift) := by
        rw [Int.shiftLeft_succ', Int.bit_val]
        exact (Int.add_zero _).symm
      rw [doubled]
      cases index with
      | zero =>
          rw [Int.testBit_bit_zero]
          rfl
      | succ index =>
          rw [Int.testBit_bit_succ, inductionHypothesis, Nat.add_sub_add_right]
          simp

/-- Masking commutes with a shift to the left. -/
theorem land_shiftLeft (left right : Int) (shift : Nat) :
    (left <<< shift).land (right <<< shift) = left.land right <<< shift := by
  apply eq_of_testBit
  intro index
  rw [Int.testBit_land, testBit_shiftLeft, testBit_shiftLeft,
    testBit_shiftLeft, Int.testBit_land]
  cases decide (shift ≤ index) <;> rfl

/-- A code packed into the field of a register. -/
def pack (register mask : Int) (shift : Nat) (code : Int) : Int :=
  (register.land mask.lnot).lor ((code <<< shift).land mask)

/-- The code in the field of a register. -/
def unpack (register mask : Int) (shift : Nat) : Int :=
  register.land mask >>> shift

/-- The mask starts at the position of its lowest bit. -/
def Aligned (mask : Int) (shift : Nat) : Prop :=
  mask = (mask >>> shift) <<< shift

/-- The code has no bit outside the field. -/
def Fits (code mask : Int) (shift : Nat) : Prop :=
  code.land (mask >>> shift).lnot = 0

instance (code mask : Int) (shift : Nat) : Decidable (Fits code mask shift) :=
  inferInstanceAs (Decidable (_ = _))

variable {register mask other code : Int} {shift otherShift : Nat}

/-- A code that fits is the same under the mask of the field. -/
theorem Fits.land
    (fits : Fits code mask shift) :
    code.land (mask >>> shift) = code := by
  apply eq_of_testBit
  intro index
  have outside := congrArg (Int.testBit · index) fits
  simp only [Int.testBit_land, Int.testBit_lnot, testBit_zero] at outside
  rw [Int.testBit_land]
  cases bit : code.testBit index <;>
    simp_all

/-- What was packed under the mask is the shifted code. -/
theorem land_pack
    (aligned : Aligned mask shift)
    (fits : Fits code mask shift) :
    (pack register mask shift code).land mask = code <<< shift := by
  have within : (code <<< shift).land mask = code <<< shift := by
    rw [aligned, land_shiftLeft, fits.land]
  have masked :
      (pack register mask shift code).land mask =
        (code <<< shift).land mask := by
    apply eq_of_testBit
    intro index
    simp only [pack, Int.testBit_land, Int.testBit_lor, Int.testBit_lnot]
    cases mask.testBit index <;> simp
  rw [masked, within]

/-- A packed code is unpacked again. -/
theorem unpack_pack
    (aligned : Aligned mask shift)
    (fits : Fits code mask shift) :
    unpack (pack register mask shift code) mask shift = code := by
  rw [unpack, land_pack aligned fits, Int.shiftLeft_shiftRight_cancel]

/-- Nothing under a disjoint mask is written. -/
theorem land_pack_of_disjoint
    (disjoint : mask.land other = 0) :
    (pack register mask shift code).land other = register.land other := by
  apply eq_of_testBit
  intro index
  have apart := congrArg (Int.testBit · index) disjoint
  simp only [Int.testBit_land, testBit_zero] at apart
  simp only [pack, Int.testBit_land, Int.testBit_lor, Int.testBit_lnot]
  cases under : mask.testBit index <;> simp_all

/-- A field under a disjoint mask keeps its code. -/
theorem unpack_pack_of_disjoint
    (disjoint : mask.land other = 0) :
    unpack (pack register mask shift code) other otherShift =
      unpack register other otherShift := by
  rw [unpack, land_pack_of_disjoint disjoint, unpack]

/-- The bits outside the mask stay. -/
theorem land_lnot_pack :
    (pack register mask shift code).land mask.lnot =
      register.land mask.lnot := by
  apply land_pack_of_disjoint
  apply eq_of_testBit
  intro index
  simp only [Int.testBit_land, Int.testBit_lnot, testBit_zero]
  cases mask.testBit index <;> rfl

/-- Every bit of a mask is a bit of another. -/
def Within (part whole : Int) : Prop :=
  part.land whole = part

/-- A mask is within its union with another. -/
theorem within_lor : Within mask (other.lor mask) := by
  apply eq_of_testBit
  intro index
  simp only [Int.testBit_land, Int.testBit_lor]
  cases mask.testBit index <;> simp

/-- What is within a mask is within its unions. -/
theorem Within.lor
    {whole : Int}
    (within : Within mask whole) :
    Within mask (whole.lor other) := by
  apply eq_of_testBit
  intro index
  have inside := congrArg (Int.testBit · index) within
  simp only [Int.testBit_land, Int.testBit_lor] at inside ⊢
  cases own : mask.testBit index <;> simp_all

/-- What is within a mask is disjoint from what the mask is disjoint from. -/
theorem Within.disjoint
    {whole : Int}
    (within : Within mask whole)
    (disjoint : whole.land other = 0) :
    mask.land other = 0 := by
  apply eq_of_testBit
  intro index
  have inside := congrArg (Int.testBit · index) within
  have apart := congrArg (Int.testBit · index) disjoint
  simp only [Int.testBit_land, testBit_zero] at inside apart ⊢
  cases own : mask.testBit index <;> simp_all

/-- Disjointness does not depend on the order. -/
theorem land_comm (left right : Int) : left.land right = right.land left := by
  apply eq_of_testBit
  intro index
  rw [Int.testBit_land, Int.testBit_land, Bool.and_comm]

/-- The bits of an integer that is shifted to the right. -/
theorem testBit_shiftRight (value : Int) (shift index : Nat) :
    (value >>> shift).testBit index = value.testBit (shift + index) := by
  cases value with
  | ofNat number =>
      exact Nat.testBit_shiftRight number
  | negSucc number =>
      exact congrArg (!·) (Nat.testBit_shiftRight number)

/-- What is under an aligned mask is the code, shifted. -/
theorem land_eq_unpack
    (aligned : Aligned mask shift) :
    register.land mask = unpack register mask shift <<< shift := by
  apply eq_of_testBit
  intro index
  rw [unpack, testBit_shiftLeft, testBit_shiftRight, Int.testBit_land]
  by_cases above : shift ≤ index
  · rw [decide_eq_true above, Nat.add_sub_cancel' above, Bool.true_and,
      Int.testBit_land]
  · have outside : mask.testBit index = false := by
      rw [aligned, testBit_shiftLeft, decide_eq_false above, Bool.false_and]
    rw [outside, decide_eq_false above, Bool.and_false, Bool.false_and]

/-- There is a bit under an aligned mask exactly when the code is not zero. -/
theorem land_eq_zero_iff
    (aligned : Aligned mask shift) :
    register.land mask = 0 ↔ unpack register mask shift = 0 := by
  constructor
  · intro nothing
    rw [unpack, nothing, Int.zero_shiftRight]
  · intro nothing
    rw [land_eq_unpack aligned, nothing, Int.zero_shiftLeft]

/-- What is packed into a register stays within a mask of all its fields. -/
theorem Within.pack
    {whole : Int}
    (old : Within register whole)
    (own : Within mask whole) :
    Within (pack register mask shift code) whole := by
  apply eq_of_testBit
  intro index
  have before := congrArg (Int.testBit · index) old
  have inside := congrArg (Int.testBit · index) own
  simp only [Packing.pack, Int.testBit_land, Int.testBit_lor,
    Int.testBit_lnot] at before inside ⊢
  cases own : mask.testBit index <;> simp_all

/-- What is within a mask that is not negative is no greater. -/
theorem Within.bounds
    {whole : Nat}
    (within : Within register whole) :
    0 ≤ register ∧ register ≤ whole := by
  cases register with
  | ofNat number =>
      have same : number &&& whole = number := Int.ofNat.inj within
      have upTo : number ≤ whole := same ▸ Nat.and_le_right
      exact ⟨Int.natCast_nonneg number, Int.ofNat_le.2 upTo⟩
  | negSucc number =>
      cases within

/-- Nothing is within every mask. -/
theorem within_zero (whole : Int) : Within 0 whole := by
  apply eq_of_testBit
  intro index
  rw [Int.testBit_land, testBit_zero, Bool.false_and]

/-- What has no bit outside a mask is within it. -/
theorem within_of_land_lnot
    {whole : Int}
    (nothing : register.land whole.lnot = 0) :
    Within register whole := by
  apply eq_of_testBit
  intro index
  have outside := congrArg (Int.testBit · index) nothing
  simp only [Int.testBit_land, Int.testBit_lnot, testBit_zero] at outside ⊢
  cases own : register.testBit index <;> simp_all

end Usac.Library.Packing
